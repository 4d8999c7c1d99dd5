/-
  Feedcast.Services.Scheduler — which sources a pass polls, and how it persists
  what came back (`services/scheduler.py`).

  The fetch phase holds no session and is the environment's: it turns a list of
  targets into a list of attempts, each with a result or an error text.
-/
import Feedcast.Core.Config
import Feedcast.Services.Ingest

namespace Feedcast

open Feedcast.Lib

/-! ## §1. Due-ness. -/

/-- What the fetch phase needs for one source. -/
structure FetchTarget where
  sourceId : Nat
  feedUrl : Str
  conditionalHeaders : ConditionalHeaders
  deriving Repr, DecidableEq

/-- One fetch, with its result or the text of its error. -/
structure FetchAttempt where
  sourceId : Nat
  attemptedAt : Time
  fetched : Except Str FetchResult

/-- `_MAX_BACKOFF_EXPONENT`. -/
def maxBackoffExponent : Nat := 32

def effectiveIntervalSeconds (source : Source) (settings : Settings) : Int :=
  let base : Int := max (source.fetchIntervalMinutes * 60) (source.cacheMaxAgeSeconds.getD 0)
  if source.consecutiveFailures = 0 then base
  else
    let exponent := min source.consecutiveFailures maxBackoffExponent
    max base (min (base * 2 ^ exponent) settings.schedulerMaxBackoffSeconds)

def isDue (source : Source) (now : Time) (settings : Settings) : Bool :=
  match source.lastFetchedAt with
  | none => true
  | some last => now ≥ last + seconds (effectiveIntervalSeconds source settings)

def dueSources (sources : List Source) (now : Time) (settings : Settings) : List Source :=
  sources.filter fun source => isDue source now settings

/-! ## §2. Targets. -/

def Source.target (source : Source) : FetchTarget where
  sourceId := source.id
  feedUrl := source.feedUrl
  conditionalHeaders := buildConditionalHeaders source

/-- The `WHERE` clause the two loaders share. -/
def Source.polled (source : Source) : Bool := source.enabled && source.archivedAt.isNone

def loadDueTargets (db : Db) (now : Time) (settings : Settings) : List FetchTarget :=
  (dueSources (db.sources.filter (·.polled)) now settings).map (·.target)

/-- `load_city_targets`; `none` is its `CityNotFoundError`. -/
def loadCityTargets (db : Db) (cityId : Nat) : Option (List FetchTarget) :=
  (db.getCity cityId).map fun _ =>
    (db.sources.filter fun source => source.cityId = cityId && source.polled).map (·.target)

theorem mem_loadDueTargets {db : Db} {now : Time} {settings : Settings} {t : FetchTarget}
    (h : t ∈ loadDueTargets db now settings) :
    ∃ source ∈ db.sources, source.polled = true ∧ t = source.target := by
  obtain ⟨source, hs, rfl⟩ := List.mem_map.mp h
  obtain ⟨hmem, -⟩ := List.mem_filter.mp hs
  obtain ⟨hmem, hpolled⟩ := List.mem_filter.mp hmem
  exact ⟨source, hmem, hpolled, rfl⟩

theorem mem_loadCityTargets {db : Db} {cityId : Nat} {ts : List FetchTarget} {t : FetchTarget}
    (h : loadCityTargets db cityId = some ts) (ht : t ∈ ts) :
    ∃ source ∈ db.sources, source.polled = true ∧ t = source.target := by
  unfold loadCityTargets at h
  obtain ⟨_, -, rfl⟩ := Option.map_eq_some_iff.mp h
  obtain ⟨source, hs, rfl⟩ := List.mem_map.mp ht
  obtain ⟨hmem, hwhere⟩ := List.mem_filter.mp hs
  exact ⟨source, hmem, (Bool.and_eq_true_iff.mp hwhere).2, rfl⟩

/-! ## §3. Persist. -/

/-- The transaction of one attempt, up to the commit. -/
def persistAttempt (P : Platform) (w : Weather) (db : Db) (source : Source)
    (attempt : FetchAttempt) (seen : List Str) : List Str × Raises Ingested :=
  match attempt.fetched with
  | .error e =>
      let (source', outcome) := recordFetchFailure source e attempt.attemptedAt
      (seen, .ok { outcome := outcome, source := source', articles := [] })
  | .ok result => parseAndPersist P w db source result attempt.attemptedAt seen

/-- The commit, which may raise too. -/
def commitTxn (w : Weather) (txn : Raises Ingested) : Raises Ingested := do
  let ingested ← txn
  w.check .commit
  return ingested

/-- What a commit makes visible. -/
def Db.commitIngested (db : Db) (ingested : Ingested) : Db :=
  { db.putSource ingested.source with articles := db.articles ++ ingested.articles }

/-- The text of the recovery write. -/
def persistFailed (exc : Str) : Str := "persist failed: ".toList ++ exc

/-- `persist_attempts`, one transaction per source, on a database nobody else
writes meanwhile.  A transaction that raises anywhere leaves no row, and its
failure is recorded on the source in a transaction of its own. -/
def persistAttempts (P : Platform) :
    List (FetchAttempt × Weather) → Db → List Str → List SourceIngestOutcome × Db
  | [], db, _ => ([], db)
  | (attempt, w) :: rest, db, seen =>
      match db.getSource attempt.sourceId with
      -- deleted mid-tick
      | none => persistAttempts P rest db seen
      | some source =>
          let (seen', txn) := persistAttempt P w db source attempt seen
          match commitTxn w txn with
          | .ok ingested =>
              let (outcomes, db') := persistAttempts P rest (db.commitIngested ingested) seen'
              (ingested.outcome :: outcomes, db')
          | .error exc =>
              -- the rollback takes the rows back; `seen_ids` keeps what it has
              let (source', outcome) :=
                recordFetchFailure source (persistFailed exc) attempt.attemptedAt
              let (outcomes, db') := persistAttempts P rest (db.putSource source') seen'
              (outcome :: outcomes, db')

section Persist

variable {P : Platform} {job : FetchAttempt × Weather} {rest : List (FetchAttempt × Weather)}
  {db : Db} {source : Source} {seen : List Str}

theorem persistAttempts_gone (hget : db.getSource job.1.sourceId = none) :
    persistAttempts P (job :: rest) db seen = persistAttempts P rest db seen := by
  rw [persistAttempts, hget]

theorem persistAttempts_committed (hget : db.getSource job.1.sourceId = some source)
    {ingested : Ingested}
    (htxn : commitTxn job.2 (persistAttempt P job.2 db source job.1 seen).2 = .ok ingested) :
    persistAttempts P (job :: rest) db seen
      = (ingested.outcome :: (persistAttempts P rest (db.commitIngested ingested)
          (persistAttempt P job.2 db source job.1 seen).1).1,
        (persistAttempts P rest (db.commitIngested ingested)
          (persistAttempt P job.2 db source job.1 seen).1).2) := by
  rw [persistAttempts, hget]
  simp only [htxn]

theorem persistAttempts_rolledBack (hget : db.getSource job.1.sourceId = some source) {e : Str}
    (htxn : commitTxn job.2 (persistAttempt P job.2 db source job.1 seen).2 = .error e) :
    persistAttempts P (job :: rest) db seen
      = ((recordFetchFailure source (persistFailed e) job.1.attemptedAt).2 ::
          (persistAttempts P rest (db.putSource
            (recordFetchFailure source (persistFailed e) job.1.attemptedAt).1)
            (persistAttempt P job.2 db source job.1 seen).1).1,
        (persistAttempts P rest (db.putSource
          (recordFetchFailure source (persistFailed e) job.1.attemptedAt).1)
          (persistAttempt P job.2 db source job.1 seen).1).2) := by
  rw [persistAttempts, hget]
  simp only [htxn]

end Persist

/-! ## §4. The passes. -/

/-- The attempt on a target, as the fetch phase returns it. -/
def FetchTarget.attempt (target : FetchTarget) (attemptedAt : Time)
    (fetched : Except Str FetchResult) : FetchAttempt where
  sourceId := target.sourceId
  attemptedAt := attemptedAt
  fetched := fetched

/-- Fetch the targets and persist what came back.  `fetch` is what
`fetch_targets` brings for a target, and when it was asked; `weather` is what
befalls the transaction of its attempt. -/
def fetchAndPersist (P : Platform) (fetch : FetchTarget → Time × Except Str FetchResult)
    (weather : FetchTarget → Weather) (targets : List FetchTarget) (db : Db) :
    List SourceIngestOutcome × Db :=
  if targets = [] then ([], db)
  else
    persistAttempts P
      (targets.map fun target => (target.attempt (fetch target).1 (fetch target).2, weather target))
      db []

def runTick (P : Platform) (settings : Settings) (now : Time)
    (fetch : FetchTarget → Time × Except Str FetchResult) (weather : FetchTarget → Weather)
    (db : Db) : List SourceIngestOutcome × Db :=
  fetchAndPersist P fetch weather (loadDueTargets db now settings) db

/-- One source's result from a forced refresh. -/
structure RefreshedSource where
  sourceId : Nat
  name : Str
  ok : Bool
  newArticles : Nat
  notModified : Bool
  error : Option Str
  deriving Repr, DecidableEq

/-- An outcome under the name its source has by now. -/
def SourceIngestOutcome.refreshed (db : Db) (outcome : SourceIngestOutcome) : RefreshedSource where
  sourceId := outcome.sourceId
  name := ((db.getSource outcome.sourceId).map (·.name)).getD "unknown source".toList
  ok := outcome.ok
  newArticles := outcome.newArticles
  notModified := outcome.notModified
  error := outcome.error

/-- `refresh_city`; `none` is its `CityNotFoundError`. -/
def refreshCity (P : Platform) (cityId : Nat)
    (fetch : FetchTarget → Time × Except Str FetchResult) (weather : FetchTarget → Weather)
    (db : Db) : Option (List RefreshedSource × Db) := do
  let targets ← loadCityTargets db cityId
  let (outcomes, db') := fetchAndPersist P fetch weather targets db
  return (outcomes.map (·.refreshed db'), db')

end Feedcast
