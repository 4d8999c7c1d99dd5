/-
  Feedcast.Polling.Bookkeeping — whose bookkeeping a source row holds
  (`services/scheduler.py`, `services/ingest.py`).

  A persist loads the row, records its fetch on it, and commits the columns that
  have changed.  Between the load and the commit it gives way, and a second pass
  can commit on the same source.  A column that the first does not change then
  keeps what the second has written, and the row is neither of the two:

    • `writeBack_bookkeeping` — when a commit leaves the row as it was recorded,
    • `failure_unmixed_iff`, `success_unmixed_iff` — what that asks of the stored
      row, for each of the two records,
    • `lastWriterWins_iff` — hence for every interleaving of passes,
    • `failureUnderSuccess_mixed` — a failure that survives a success.
-/
import Feedcast.Polling.Validators

namespace Feedcast

open Feedcast.Lib

/-! ## §1. The property. -/

/-- The columns a fetch is recorded in. -/
@[ext] structure Bookkeeping where
  consecutiveFailures : Nat
  lastError : Option Str
  lastErrorAt : Option Time
  lastFetchedAt : Option Time
  lastSuccessAt : Option Time
  cacheMaxAgeSeconds : Option Nat
  etag : Option Str
  lastModified : Option Str
  deriving Repr, DecidableEq

def Source.bookkeeping (source : Source) : Bookkeeping where
  consecutiveFailures := source.consecutiveFailures
  lastError := source.lastError
  lastErrorAt := source.lastErrorAt
  lastFetchedAt := source.lastFetchedAt
  lastSuccessAt := source.lastSuccessAt
  cacheMaxAgeSeconds := source.cacheMaxAgeSeconds
  etag := source.etag
  lastModified := source.lastModified

/-- The passes of the scheduler and of the forced refresh, and nothing else. -/
inductive PollAction where
  | beginTick (now : Time) (targets : List FetchTarget)
  | beginRefresh (cityId : Nat) (targets : List FetchTarget)
  | pass (index : Nat) (action : PassAction)

def PollAction.action : PollAction → WorldAction
  | .beginTick now targets => .beginTick now targets
  | .beginRefresh cityId targets => .beginRefresh cityId targets
  | .pass index action => .pass index action

/-- The world, and what was recorded on each source by the last transaction to
commit on it. -/
structure BookedWorld where
  world : World
  last : List (Nat × Bookkeeping) := []

/-- The row that a pass has loaded, and the one it is about to commit. -/
def Pass.recorded (pass : Pass) : Option (Source × Source) :=
  match pass.phase with
  | .persisting _ _ _ (some ⟨_, loaded, .ready _ ingested⟩) => some (loaded, ingested.source)
  | _ => none

/-- The transaction that an action commits. -/
def World.committing (w : World) : PollAction → Option (Source × Source)
  | .pass index .commit => (w.passes[index]?).bind (·.recorded)
  | _ => none

def bookedStep (P : Platform) (settings : Settings) (b : BookedWorld) (action : PollAction) :
    Option BookedWorld := do
  let world ← b.world.step P settings action.action
  return { world := world
           last := match b.world.committing action with
             | none => b.last
             | some (loaded, recorded) => (loaded.id, recorded.bookkeeping) :: b.last }

/-- **Every row is as the last transaction to commit on it has recorded it.** -/
def LastWriterWins (b : BookedWorld) : Prop :=
  ∀ id bookkeeping, b.last.lookup id = some bookkeeping →
    ∀ stored, b.world.db.getSource id = some stored → stored.bookkeeping = bookkeeping

/-- **Nothing shines through**: each column that an edit leaves as it was loaded
is still stored as it was loaded. -/
structure Unmixed (loaded edited stored : Bookkeeping) : Prop where
  consecutiveFailures : edited.consecutiveFailures = loaded.consecutiveFailures →
    stored.consecutiveFailures = loaded.consecutiveFailures
  lastError : edited.lastError = loaded.lastError → stored.lastError = loaded.lastError
  lastErrorAt : edited.lastErrorAt = loaded.lastErrorAt → stored.lastErrorAt = loaded.lastErrorAt
  lastFetchedAt : edited.lastFetchedAt = loaded.lastFetchedAt →
    stored.lastFetchedAt = loaded.lastFetchedAt
  lastSuccessAt : edited.lastSuccessAt = loaded.lastSuccessAt →
    stored.lastSuccessAt = loaded.lastSuccessAt
  cacheMaxAgeSeconds : edited.cacheMaxAgeSeconds = loaded.cacheMaxAgeSeconds →
    stored.cacheMaxAgeSeconds = loaded.cacheMaxAgeSeconds
  etag : edited.etag = loaded.etag → stored.etag = loaded.etag
  lastModified : edited.lastModified = loaded.lastModified →
    stored.lastModified = loaded.lastModified

/-- A commit on a row in which nothing shines through. -/
def CommitsWhole (b : BookedWorld) (action : PollAction) : Prop :=
  ∀ loaded recorded, b.world.committing action = some (loaded, recorded) →
    ∀ stored, b.world.db.getSource loaded.id = some stored →
      Unmixed loaded.bookkeeping recorded.bookkeeping stored.bookkeeping

/-! ## §2. One commit. -/

theorem written_eq_edited {α : Type} [DecidableEq α] {loaded edited stored : α} :
    written loaded edited stored = edited ↔ (edited = loaded → stored = loaded) := by
  unfold written
  split
  · next h =>
      rw [h]
      exact ⟨fun hs _ => hs, fun hs => hs rfl⟩
  · next h => exact ⟨fun _ hsame => absurd hsame h, fun _ => rfl⟩

/-- **When a commit leaves the row as it was recorded.** -/
theorem writeBack_bookkeeping {loaded edited stored : Source} :
    (loaded.writeBack edited stored).bookkeeping = edited.bookkeeping ↔
      Unmixed loaded.bookkeeping edited.bookkeeping stored.bookkeeping := by
  -- column by column: each is written, or holds the value already
  constructor
  · intro h
    exact { consecutiveFailures := written_eq_edited.mp (congrArg (·.consecutiveFailures) h)
            lastError := written_eq_edited.mp (congrArg (·.lastError) h)
            lastErrorAt := written_eq_edited.mp (congrArg (·.lastErrorAt) h)
            lastFetchedAt := written_eq_edited.mp (congrArg (·.lastFetchedAt) h)
            lastSuccessAt := written_eq_edited.mp (congrArg (·.lastSuccessAt) h)
            cacheMaxAgeSeconds := written_eq_edited.mp (congrArg (·.cacheMaxAgeSeconds) h)
            etag := written_eq_edited.mp (congrArg (·.etag) h)
            lastModified := written_eq_edited.mp (congrArg (·.lastModified) h) }
  · intro h
    refine Bookkeeping.ext ?_ ?_ ?_ ?_ ?_ ?_ ?_ ?_
    · exact written_eq_edited.mpr h.consecutiveFailures
    · exact written_eq_edited.mpr h.lastError
    · exact written_eq_edited.mpr h.lastErrorAt
    · exact written_eq_edited.mpr h.lastFetchedAt
    · exact written_eq_edited.mpr h.lastSuccessAt
    · exact written_eq_edited.mpr h.cacheMaxAgeSeconds
    · exact written_eq_edited.mpr h.etag
    · exact written_eq_edited.mpr h.lastModified

/-- What a recorded failure asks of the stored row: the columns of the last
success as they were loaded, and those of the error and the fetch if they happen
to be what is recorded already. -/
theorem failure_unmixed_iff {loaded stored : Source} {error : Str} {now : Time} :
    Unmixed loaded.bookkeeping (recordFetchFailure loaded error now).1.bookkeeping
        stored.bookkeeping ↔
      (stored.lastSuccessAt = loaded.lastSuccessAt
        ∧ stored.cacheMaxAgeSeconds = loaded.cacheMaxAgeSeconds
        ∧ stored.etag = loaded.etag ∧ stored.lastModified = loaded.lastModified)
      ∧ (some error = loaded.lastError → stored.lastError = loaded.lastError)
      ∧ (some now = loaded.lastErrorAt → stored.lastErrorAt = loaded.lastErrorAt)
      ∧ (some now = loaded.lastFetchedAt → stored.lastFetchedAt = loaded.lastFetchedAt) := by
  constructor
  · intro h
    exact ⟨⟨h.lastSuccessAt rfl, h.cacheMaxAgeSeconds rfl, h.etag rfl, h.lastModified rfl⟩,
      h.lastError, h.lastErrorAt, h.lastFetchedAt⟩
  · intro h
    obtain ⟨⟨hsuccess, hage, hetag, hmodified⟩, herror, herrorAt, hfetched⟩ := h
    -- the count always changes, so nothing is asked of it
    exact { consecutiveFailures := fun hsame => absurd hsame (Nat.succ_ne_self _)
            lastError := herror
            lastErrorAt := herrorAt
            lastFetchedAt := hfetched
            lastSuccessAt := fun _ => hsuccess
            cacheMaxAgeSeconds := fun _ => hage
            etag := fun _ => hetag
            lastModified := fun _ => hmodified }

/-- What a recorded success asks of the stored row.  On a row without failures
it leaves the columns of the error as they are. -/
theorem success_unmixed_iff {P : Platform} {loaded edited stored : Source} {headers : Headers}
    {now : Time} (hrecord : recordFetchSuccess P loaded headers now = .ok edited) :
    Unmixed loaded.bookkeeping edited.bookkeeping stored.bookkeeping ↔
      (loaded.consecutiveFailures = 0 → stored.consecutiveFailures = 0)
      ∧ (loaded.lastError = none → stored.lastError = none)
      ∧ (loaded.lastErrorAt = none → stored.lastErrorAt = none)
      ∧ (some now = loaded.lastFetchedAt → stored.lastFetchedAt = loaded.lastFetchedAt)
      ∧ (some now = loaded.lastSuccessAt → stored.lastSuccessAt = loaded.lastSuccessAt)
      ∧ (edited.cacheMaxAgeSeconds = loaded.cacheMaxAgeSeconds →
          stored.cacheMaxAgeSeconds = loaded.cacheMaxAgeSeconds)
      ∧ (edited.etag = loaded.etag → stored.etag = loaded.etag)
      ∧ (edited.lastModified = loaded.lastModified →
          stored.lastModified = loaded.lastModified) := by
  obtain ⟨maxAge, -, rfl⟩ := recordFetchSuccess_eq hrecord
  -- a success writes constants over the error columns: read from either side
  have hcleared : ∀ {α : Type} {a b c : α}, (a = b → c = b) ↔ (b = a → c = a) :=
    ⟨fun h hba => hba ▸ h hba.symm, fun h hab => hab ▸ h hab.symm⟩
  constructor
  · intro h
    exact ⟨hcleared.mp h.consecutiveFailures, hcleared.mp h.lastError,
      hcleared.mp h.lastErrorAt, h.lastFetchedAt, h.lastSuccessAt, h.cacheMaxAgeSeconds, h.etag,
      h.lastModified⟩
  · intro h
    obtain ⟨hfailures, herror, herrorAt, hfetched, hsuccess, hage, hetag, hmodified⟩ := h
    exact { consecutiveFailures := hcleared.mpr hfailures
            lastError := hcleared.mpr herror
            lastErrorAt := hcleared.mpr herrorAt
            lastFetchedAt := hfetched
            lastSuccessAt := hsuccess
            cacheMaxAgeSeconds := hage
            etag := hetag
            lastModified := hmodified }

/-! ## §3. Steps. -/

/-- What a pass does to the sources: nothing, or the commit it was about to make. -/
theorem Pass.step_sources {P : Platform} {db db' : Db} {taken : List Str} {pass pass' : Pass}
    {action : PassAction} (hstep : pass.step P db taken action = some (db', pass')) :
    (action ≠ .commit ∧ db' = db)
      ∨ action = .commit ∧ ∃ loaded edited, pass.recorded = some (loaded, edited)
        ∧ db'.sources = (db.flushSource loaded edited).sources := by
  obtain ⟨-, heffect⟩ := Pass.step_effect hstep
  obtain ⟨city, phase⟩ := pass
  obtain ⟨city', phase'⟩ := pass'
  -- only a commit writes a row, and it writes the columns that changed
  cases heffect with
  | commit fetched loaded recovery ingested todo seen outcomes =>
      exact Or.inr ⟨rfl, loaded, ingested.source, rfl, rfl⟩
  | statement todo outcomes effect =>
      refine Or.inl ⟨?_, rfl⟩
      cases effect <;> exact nofun
  | _ => exact Or.inl ⟨nofun, rfl⟩

theorem getSource_flush_other {db : Db} {loaded edited : Source} {id : Nat}
    (hne : id ≠ loaded.id) : (db.flushSource loaded edited).getSource id = db.getSource id := by
  unfold Db.flushSource
  split
  · next stored hget =>
      have hid : stored.id = loaded.id := (getRow_some Source.id hget).2
      exact getRow_setRow_of_ne Source.id (fun h => hne (h.symm.trans hid))
  · rfl

theorem getSource_flush_self {db : Db} {loaded edited stored : Source}
    (hget : db.getSource loaded.id = some stored) :
    (db.flushSource loaded edited).getSource loaded.id
      = some (loaded.writeBack edited stored) := by
  unfold Db.flushSource
  rw [hget]
  have hid : stored.id = loaded.id := (getRow_some Source.id hget).2
  have hkey : (loaded.writeBack edited stored).id = loaded.id := hid
  show getRow Source.id (setRow Source.id _ db.sources) loaded.id = _
  -- the row that is looked up is the one that is replaced
  have hold : getRow Source.id db.sources (loaded.writeBack edited stored).id = some stored := by
    rw [hkey]
    exact hget
  rw [← hkey]
  exact getRow_setRow_self Source.id hold

/-- A row that a flush leaves was there before it. -/
theorem getSource_flush_some {db : Db} {loaded edited flushed : Source}
    (hget : (db.flushSource loaded edited).getSource loaded.id = some flushed) :
    ∃ stored, db.getSource loaded.id = some stored ∧ flushed = loaded.writeBack edited stored := by
  cases hold : db.getSource loaded.id with
  | none =>
      -- no row, and the flush leaves the table alone
      unfold Db.flushSource at hget
      rw [hold] at hget
      rw [hold] at hget
      cases hget
  | some stored =>
      rw [getSource_flush_self hold] at hget
      exact ⟨stored, rfl, (Option.some.inj hget).symm⟩

section Step

variable {P : Platform} {settings : Settings}

theorem World.step_pass {w w' : World} {index : Nat} {action : PassAction}
    (hstep : w.step P settings (.pass index action) = some w') :
    ∃ pass pass', w.passes[index]? = some pass
      ∧ pass.step P w.db (w.taken index) action = some (w'.db, pass')
      ∧ w'.passes = w.passes.set index pass' := by
  simp only [World.step] at hstep
  split at hstep
  · cases hstep
  · next pass hget =>
      split at hstep
      · cases hstep
      · next db pass' hpass =>
          cases hstep
          exact ⟨pass, pass', hget, hpass, rfl⟩

/-- **What a step does to the rows**: nothing, or the commit that is booked. -/
theorem bookedStep_cases {b b' : BookedWorld} {action : PollAction}
    (hstep : bookedStep P settings b action = some b') :
    (b.world.committing action = none ∧ b'.last = b.last
        ∧ b'.world.db.sources = b.world.db.sources)
      ∨ ∃ loaded recorded, b.world.committing action = some (loaded, recorded)
        ∧ b'.last = (loaded.id, recorded.bookkeeping) :: b.last
        ∧ b'.world.db.sources = (b.world.db.flushSource loaded recorded).sources := by
  obtain ⟨world, hworld, hbooked⟩ := Option.bind_eq_some_iff.mp hstep
  obtain rfl := Option.some.inj hbooked
  simp only
  -- of all steps only a commit of a pass touches `sources`
  cases action with
  | beginTick now targets =>
      refine Or.inl ⟨rfl, rfl, ?_⟩
      cases World.step_effect hworld <;> rfl
  | beginRefresh cityId targets =>
      refine Or.inl ⟨rfl, rfl, ?_⟩
      cases World.step_effect hworld <;> rfl
  | pass index action =>
      obtain ⟨pass, pass', hget, hpass, -⟩ := World.step_pass hworld
      rcases Pass.step_sources hpass with ⟨hne, hdb⟩ | ⟨rfl, loaded, recorded, hrecorded, hdb⟩
      · -- whatever is not a commit leaves the rows and the books alone
        have hnone : b.world.committing (.pass index action) = none := by
          cases action with
          | commit => exact absurd rfl hne
          | _ => rfl
        refine Or.inl ⟨hnone, ?_, congrArg (·.sources) hdb⟩
        rw [hnone]
      · have hsome : b.world.committing (.pass index .commit) = some (loaded, recorded) := by
          show (b.world.passes[index]?).bind _ = _
          rw [hget]
          exact hrecorded
        refine Or.inr ⟨loaded, recorded, hsome, ?_, hdb⟩
        rw [hsome]

/-- **A step leaves every row to its last writer exactly if nothing shines
through.** -/
theorem bookedStep_iff {b b' : BookedWorld} {action : PollAction} (h : LastWriterWins b)
    (hstep : bookedStep P settings b action = some b') :
    LastWriterWins b' ↔ CommitsWhole b action := by
  rcases bookedStep_cases hstep with ⟨hnone, hlast, hsources⟩ | ⟨loaded, recorded, hsome, hlast,
    hsources⟩
  · -- nothing is committed, and nothing is booked
    refine iff_of_true ?_ ?_
    · intro id bookkeeping hlookup stored hget
      rw [hlast] at hlookup
      refine h id bookkeeping hlookup stored ?_
      unfold Db.getSource
      rw [← hsources]
      exact hget
    · intro loaded recorded hsome
      rw [hnone] at hsome
      cases hsome
  · have hget' : ∀ id, b'.world.db.getSource id
        = (b.world.db.flushSource loaded recorded).getSource id := by
      intro id
      unfold Db.getSource
      rw [hsources]
    constructor
    · -- the row committed is the one that was booked
      intro h' loaded' recorded' hsome' stored hget
      obtain ⟨rfl, rfl⟩ := Prod.mk.inj (Option.some.inj (hsome.symm.trans hsome'))
      refine writeBack_bookkeeping.mp (h' loaded.id recorded.bookkeeping ?_ _ ?_)
      · rw [hlast]
        exact List.lookup_cons_self
      · rw [hget']
        exact getSource_flush_self hget
    · intro hwhole id bookkeeping hlookup stored hget
      rw [hlast] at hlookup
      rw [hget'] at hget
      -- the booking on top is that of the row just committed
      by_cases hid : id = loaded.id
      · rw [hid, List.lookup_cons_self] at hlookup
        obtain rfl := Option.some.inj hlookup
        rw [hid] at hget
        obtain ⟨old, hold, rfl⟩ := getSource_flush_some hget
        exact writeBack_bookkeeping.mpr (hwhole loaded recorded hsome old hold)
      · -- another row, which is as it was booked before
        have hlookup' : b.last.lookup id = some bookkeeping := by
          rw [List.lookup_cons, beq_eq_false_iff_ne.mpr hid] at hlookup
          exact hlookup
        rw [getSource_flush_other hid] at hget
        exact h id bookkeeping hlookup' stored hget

/-- A commit is always enabled. -/
theorem World.committing_enabled {w : World} {action : PollAction} {loaded recorded : Source}
    (h : w.committing action = some (loaded, recorded)) :
    ∃ w', w.step P settings action.action = some w' := by
  unfold World.committing at h
  split at h
  · next index =>
      obtain ⟨pass, hget, hrecorded⟩ := Option.bind_eq_some_iff.mp h
      unfold Pass.recorded at hrecorded
      split at hrecorded
      · next hphase =>
          simp only [PollAction.action, World.step, hget, Pass.step, hphase]
          exact ⟨_, rfl⟩
      · cases hrecorded
  · cases h

end Step

/-! ## §4. Runs. -/

/-- Nothing running, and nothing booked. -/
def BookedWorld.start (db : Db) : BookedWorld where
  world := World.start db

/-- **THE LAST WRITER WINS THROUGHOUT EXACTLY IF NOTHING SHINES THROUGH ANY
COMMIT.** -/
theorem lastWriterWins_iff (P : Platform) (settings : Settings) (db : Db)
    (actions : List PollAction) :
    Throughout (bookedStep P settings) LastWriterWins (BookedWorld.start db) actions ↔
      Along (bookedStep P settings) CommitsWhole (BookedWorld.start db) actions := by
  refine throughout_iff_along (J := fun _ => True) (fun _ _ _ _ _ => trivial)
    (fun b action b' _ h hstep => bookedStep_iff h hstep) ?_ trivial ?_
  -- a commit that is due is never refused
  · intro b action hstuck loaded recorded hsome
    obtain ⟨w', hw'⟩ := @World.committing_enabled P settings _ _ _ _ hsome
    have hbooked : bookedStep P settings b action ≠ none := by
      unfold bookedStep
      rw [hw']
      exact nofun
    exact absurd hstuck hbooked
  -- nothing has been booked at the start
  · intro id bookkeeping hlookup
    cases hlookup

/-! ## §5. A failure under a success. -/

/-- A tick fetches both feeds, and a refresh gets no answer.  The refresh commits
while the tick is parsing. -/
def failureUnderSuccess : List PollAction :=
  let targets := [(testTimes.row 1 1).target, (testTimes.row 2 1).target]
  let page : Except Str FetchResult :=
    .ok { statusCode := 200, headers := versioned, content := [], finalUrl := testTimes.feedUrl }
  let timeout : Except Str FetchResult := .error "timed out".toList
  [.beginTick 0 targets, .beginRefresh 1 targets,
    .pass 0 (.respond 0 0 page), .pass 0 (.respond 1 0 page), .pass 0 .startPersist,
    .pass 0 .openNext, .pass 0 (.parse calm),
    .pass 1 (.respond 0 1 timeout), .pass 1 (.respond 1 1 timeout), .pass 1 .startPersist,
    .pass 1 .openNext, .pass 1 (.parse calm), .pass 1 .commit,
    .pass 0 (.insertRow 0), .pass 0 .finishInsert, .pass 0 .commit]

theorem failureUnderSuccess_rows :
    (exec (bookedStep oneStory defaultSettings) (BookedWorld.start twoSources)
        failureUnderSuccess).map
        (fun b => (b.last.lookup 1, (b.world.db.getSource 1).map (·.bookkeeping)))
      = some (some { consecutiveFailures := 0, lastError := none, lastErrorAt := none
                     lastFetchedAt := some 0, lastSuccessAt := some 0
                     cacheMaxAgeSeconds := none, etag := versioned.etag, lastModified := none },
          some { consecutiveFailures := 1, lastError := some "timed out".toList
                 lastErrorAt := some 1, lastFetchedAt := some 0, lastSuccessAt := some 0
                 cacheMaxAgeSeconds := none, etag := versioned.etag, lastModified := none }) := by
  decide +kernel

/-- The row is half a success and half a failure. -/
theorem failureUnderSuccess_mixed :
    ∃ b, Run (bookedStep oneStory defaultSettings) (BookedWorld.start twoSources)
        failureUnderSuccess b ∧ ¬ LastWriterWins b := by
  obtain ⟨b, hb, hpair⟩ := Option.map_eq_some_iff.mp failureUnderSuccess_rows
  obtain ⟨hlast, hrow⟩ := Prod.mk.inj hpair
  obtain ⟨stored, hstored, hbookkeeping⟩ := Option.map_eq_some_iff.mp hrow
  refine ⟨b, run_iff_exec.mpr hb, ?_⟩
  intro h
  have hsame := hbookkeeping.symm.trans (h 1 _ hlast stored hstored)
  exact absurd (congrArg Bookkeeping.consecutiveFailures hsame) (by decide)

end Feedcast
