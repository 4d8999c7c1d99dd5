/-
  Feedcast.Polling.Health — a source's history, the schedule and the badge.

  Ticks, refreshes and manual checks each write some of five columns; the
  scheduler and the admin page read them.  What they read is the history of the
  source:

    • `columnsOf_failures`, … — the columns as they are folded from a history,
      read off it,
    • `Noted` — what a call does to the rows, and what it adds to the history,
    • `healthStep_inv` — every call keeps the columns true to the history,
    • `health_follows_history` — hence the badge and the next poll, over every
      run.
-/
import Feedcast.Cities.Segment
import Feedcast.Ingest.ManualCheck
import Feedcast.Ingest.Transaction
import Feedcast.Polling.Backoff
import Feedcast.Services.Sources
import Feedcast.Static.Sources

namespace Feedcast

open Feedcast.Lib

/-! ## §1. Histories. -/

/-- Something looked at a source, and found it in order or not. -/
structure SourceEvent where
  sourceId : Nat
  time : Time
  /-- By a tick or a refresh, and not by hand. -/
  polled : Bool
  error : Option Str
  deriving Repr, DecidableEq

/-- The columns that tell the health of a source. -/
structure HealthColumns where
  lastFetchedAt : Option Time := none
  consecutiveFailures : Nat := 0
  lastSuccessAt : Option Time := none
  lastError : Option Str := none
  lastErrorAt : Option Time := none
  deriving Repr, DecidableEq

def Source.health (source : Source) : HealthColumns where
  lastFetchedAt := source.lastFetchedAt
  consecutiveFailures := source.consecutiveFailures
  lastSuccessAt := source.lastSuccessAt
  lastError := source.lastError
  lastErrorAt := source.lastErrorAt

/-- What an event leaves in the columns.  A check by hand does not count as a fetch. -/
def HealthColumns.note (event : SourceEvent) (columns : HealthColumns) : HealthColumns :=
  match event.polled, event.error with
  | true, none => { lastFetchedAt := some event.time, lastSuccessAt := some event.time }
  | true, some error =>
      { columns with
        lastFetchedAt := some event.time
        consecutiveFailures := columns.consecutiveFailures + 1
        lastError := some error
        lastErrorAt := some event.time }
  | false, none =>
      { columns with lastSuccessAt := some event.time, lastError := none, lastErrorAt := none }
  | false, some error => { columns with lastError := some error, lastErrorAt := some event.time }

/-- The columns after a history, newest first. -/
def columnsOf (events : List SourceEvent) : HealthColumns :=
  events.foldr HealthColumns.note {}

/-- The history of one source. -/
def eventsOf (id : Nat) (events : List SourceEvent) : List SourceEvent :=
  events.filter fun event => event.sourceId = id

/-! ## §2. Reading a history. -/

def lastPoll (events : List SourceEvent) : Option SourceEvent := events.find? (·.polled)

/-- The polls since the last one that found the feed in order. -/
def failuresInARow (events : List SourceEvent) : Nat :=
  ((events.filter (·.polled)).takeWhile (·.error.isSome)).length

/-- What the last event found. -/
def lastFound (events : List SourceEvent) : Option Str := events.head?.bind (·.error)

section Columns

variable {events : List SourceEvent}

theorem columnsOf_fetched (events : List SourceEvent) :
    (columnsOf events).lastFetchedAt = (lastPoll events).map (·.time) := by
  induction events with
  | nil => rfl
  | cons event events ih =>
      show ((columnsOf events).note event).lastFetchedAt = _
      obtain ⟨id, time, polled, error⟩ := event
      cases polled with
      | true => cases error <;> rfl
      | false => cases error <;> exact ih

theorem columnsOf_failures (events : List SourceEvent) :
    (columnsOf events).consecutiveFailures = failuresInARow events := by
  induction events with
  | nil => rfl
  | cons event events ih =>
      show ((columnsOf events).note event).consecutiveFailures = _
      obtain ⟨id, time, polled, error⟩ := event
      -- a check by hand leaves the count as it is
      cases polled with
      | true =>
          cases error with
          | none => rfl
          | some error => exact congrArg (· + 1) ih
      | false => cases error <;> exact ih

theorem columnsOf_success (events : List SourceEvent) :
    (columnsOf events).lastSuccessAt = (events.find? (·.error.isNone)).map (·.time) := by
  induction events with
  | nil => rfl
  | cons event events ih =>
      show ((columnsOf events).note event).lastSuccessAt = _
      obtain ⟨id, time, polled, error⟩ := event
      cases error with
      | none => cases polled <;> rfl
      | some error => cases polled <;> exact ih

theorem columnsOf_error (events : List SourceEvent) :
    (columnsOf events).lastError = lastFound events := by
  cases events with
  | nil => rfl
  | cons event events =>
      obtain ⟨id, time, polled, error⟩ := event
      cases polled <;> cases error <;> rfl

theorem columnsOf_errorAt (events : List SourceEvent) :
    (columnsOf events).lastErrorAt
      = events.head?.bind fun event => event.error.map fun _ => event.time := by
  cases events with
  | nil => rfl
  | cons event events =>
      obtain ⟨id, time, polled, error⟩ := event
      cases polled <;> cases error <;> rfl

/-- The failures count from the last poll on. -/
theorem failuresInARow_pos : 0 < failuresInARow events
    ↔ ∃ poll, lastPoll events = some poll ∧ poll.error.isSome := by
  unfold failuresInARow lastPoll
  rw [← List.head?_filter]
  cases events.filter (·.polled) with
  | nil => simp
  | cons poll polls =>
      cases herror : poll.error with
      | none => simp [herror]
      | some error => simp [herror]

end Columns

/-! ## §3. What a call does. -/

/-- What a call does to the rows, and what it adds to the histories, newest first. -/
structure Noted (db db' : Db) (events : List SourceEvent) : Prop where
  keyed : db'.Keyed
  next : db.nextSource ≤ db'.nextSource
  fresh : ∀ event ∈ events, event.sourceId < db'.nextSource
  /-- A row is an old one with its events noted, or came in meanwhile. -/
  row : ∀ source' ∈ db'.sources,
    (∃ source ∈ db.sources, source.id = source'.id
        ∧ source'.health = (eventsOf source'.id events).foldr HealthColumns.note source.health)
      ∨ (db.nextSource ≤ source'.id ∧ source'.health = columnsOf (eventsOf source'.id events))

theorem eventsOf_append (id : Nat) (events events' : List SourceEvent) :
    eventsOf id (events ++ events') = eventsOf id events ++ eventsOf id events' :=
  List.filter_append events events'

/-- An id that was not given out yet has no history. -/
theorem eventsOf_fresh {id next : Nat} {events : List SourceEvent} (hid : next ≤ id)
    (hfresh : ∀ event ∈ events, event.sourceId < next) : eventsOf id events = [] := by
  unfold eventsOf
  rw [List.filter_eq_nil_iff]
  intro event hevent
  have := hfresh event hevent
  simp only [decide_eq_true_eq]
  omega

section Noted

variable {db db' db'' : Db} {source source' : Source} {events events' : List SourceEvent}

theorem Noted.refl (hkeyed : db.Keyed) : Noted db db [] where
  keyed := hkeyed
  next := le_refl _
  fresh := fun _ h => absurd h List.not_mem_nil
  row := fun source hmem => Or.inl ⟨source, hmem, rfl, rfl⟩

/-- One call after another. -/
theorem Noted.trans (h : Noted db db' events) (h' : Noted db' db'' events') :
    Noted db db'' (events' ++ events) where
  keyed := h'.keyed
  next := h.next.trans h'.next
  fresh := by
    intro event hevent
    rcases List.mem_append.mp hevent with hmem | hmem
    · exact h'.fresh event hmem
    · exact lt_of_lt_of_le (h.fresh event hmem) h'.next
  row := by
    intro source'' hmem
    rw [eventsOf_append]
    -- a row after both calls was there in between, or is new since; likewise one before
    rcases h'.row source'' hmem with ⟨source', hmem', hid', hhealth'⟩ | ⟨hnew, hhealth'⟩
    · rw [hhealth', ← hid']
      rcases h.row source' hmem' with ⟨source, hmem, hid, hhealth⟩ | ⟨hnew, hhealth⟩
      · refine Or.inl ⟨source, hmem, hid, ?_⟩
        rw [List.foldr_append, ← hhealth]
      · refine Or.inr ⟨hnew, ?_⟩
        rw [hhealth, columnsOf, columnsOf, List.foldr_append]
    · refine Or.inr ⟨h.next.trans hnew, ?_⟩
      -- a number given out later has no event from before
      rw [eventsOf_fresh hnew h.fresh, List.append_nil]
      exact hhealth'

/-- A call that touches neither the sources nor the cities. -/
theorem Noted.elsewhere (h : Noted db db' events) (hcities : db''.cities = db'.cities)
    (hsources : db''.sources = db'.sources) (hnextCity : db''.nextCity = db'.nextCity)
    (hnextSource : db''.nextSource = db'.nextSource) : Noted db db'' events where
  keyed := by
    refine h.keyed.of_same_keys ?_ hnextCity ?_ hnextSource
    · rw [hcities]
    · rw [hsources]
  next := hnextSource ▸ h.next
  fresh := hnextSource ▸ h.fresh
  row := hsources ▸ h.row

/-- Rows that keep their ids and their columns. -/
theorem Noted.rows (hkeyed : db'.Keyed) (hnext : db.nextSource ≤ db'.nextSource)
    (hrow : ∀ source' ∈ db'.sources,
      (∃ source ∈ db.sources, source.id = source'.id ∧ source'.health = source.health)
        ∨ (db.nextSource ≤ source'.id ∧ source'.health = {})) : Noted db db' [] where
  keyed := hkeyed
  next := hnext
  fresh := fun _ h => absurd h List.not_mem_nil
  row := hrow

/-- **A row written back, with an event noted.** -/
theorem Noted.put (hkeyed : db.Keyed) (hget : db.getSource source.id = some source)
    (hid : source'.id = source.id) (hcity : source'.cityId = source.cityId) {event : SourceEvent}
    (hevent : event.sourceId = source.id) (hhealth : source'.health = source.health.note event) :
    Noted db (db.putSource source') [event] where
  keyed := hkeyed.putSource hget hid hcity
  next := le_refl _
  fresh := by
    intro event' hmem
    rw [List.mem_singleton.mp hmem, hevent]
    exact hkeyed.source_fresh source (getRow_some Source.id hget).1
  row := by
    intro row hrow
    -- the one event belongs to the row that was written
    have hone : eventsOf row.id [event] = if event.sourceId = row.id then [event] else [] := by
      unfold eventsOf
      by_cases h : event.sourceId = row.id
      · rw [if_pos h, List.filter_cons_of_pos (by simpa using h), List.filter_nil]
      · rw [if_neg h, List.filter_cons_of_neg (by simpa using h), List.filter_nil]
    rw [hone]
    rcases (mem_setRow Source.id).mp hrow with ⟨rfl, -⟩ | ⟨hold, hne⟩
    · refine Or.inl ⟨source, (getRow_some Source.id hget).1, hid.symm, ?_⟩
      rw [if_pos (hevent.trans hid.symm)]
      exact hhealth
    · refine Or.inl ⟨row, hold, rfl, ?_⟩
      rw [if_neg fun heq => hne (heq.symm.trans (hevent.trans hid.symm))]
      rfl

end Noted

section Calls

variable {P : Platform} {settings : Settings} {db db' : Db}

theorem SourceUpdate.apply_health {data : SourceUpdate} {source source' : Source}
    (h : data.apply source = .ok source') : source'.health = source.health := by
  unfold SourceUpdate.apply at h
  -- one column after another
  obtain ⟨name, -, h⟩ := except_bind_ok.mp h
  obtain ⟨feedUrl, -, h⟩ := except_bind_ok.mp h
  obtain ⟨language, -, h⟩ := except_bind_ok.mp h
  obtain ⟨publisherGroup, -, h⟩ := except_bind_ok.mp h
  obtain ⟨isLocalOutlet, -, h⟩ := except_bind_ok.mp h
  obtain ⟨enabled, -, h⟩ := except_bind_ok.mp h
  obtain ⟨fetchIntervalMinutes, -, h⟩ := except_bind_ok.mp h
  cases h
  rfl

theorem sourceRows_health {cityId next : Nat} {sources : List SourceCreate} {source : Source}
    (h : source ∈ sourceRows cityId next sources) : source.health = {} := by
  induction sources generalizing next with
  | nil => cases h
  | cons data rest ih =>
      rcases List.mem_cons.mp h with rfl | h
      · rfl
      · exact ih h

/-- A row written back with its columns as they were. -/
theorem put_health {source source' : Source} (hget : db.getSource source.id = some source)
    (hid : source'.id = source.id) (hhealth : source'.health = source.health) :
    ∀ row ∈ (db.putSource source').sources,
      (∃ old ∈ db.sources, old.id = row.id ∧ row.health = old.health)
        ∨ (db.nextSource ≤ row.id ∧ row.health = {}) := by
  intro row hrow
  rcases (mem_setRow Source.id).mp hrow with ⟨rfl, -⟩ | ⟨hold, -⟩
  · exact Or.inl ⟨source, (getRow_some Source.id hget).1, hid.symm, hhealth⟩
  · exact Or.inl ⟨row, hold, rfl, rfl⟩

/-- A cascade over the rows leaves the columns. -/
theorem cascade_health {stamp : Source → Source}
    (hstamp : ∀ source, (stamp source).id = source.id ∧ (stamp source).health = source.health) :
    ∀ row ∈ db.sources.map stamp,
      (∃ old ∈ db.sources, old.id = row.id ∧ row.health = old.health)
        ∨ (db.nextSource ≤ row.id ∧ row.health = {}) := by
  intro row hrow
  obtain ⟨source, hmem, rfl⟩ := List.mem_map.mp hrow
  exact Or.inl ⟨source, hmem, (hstamp source).1.symm, (hstamp source).2⟩

/-- **The city and source calls add nothing to a history.** -/
theorem OnboardingCall.run_noted {call : OnboardingCall} (hkeyed : db.Keyed)
    (hrun : call.run P settings db = .ok db') : Noted db db' [] := by
  have hkeyed' := call.run_keyed hkeyed hrun
  cases call with
  | createCity data =>
      obtain ⟨-, -, rfl⟩ := createCity_ok hrun
      refine Noted.rows hkeyed' (Nat.le_add_right _ _) ?_
      intro row hrow
      rcases List.mem_append.mp hrow with hold | hnew
      · exact Or.inl ⟨row, hold, rfl, rfl⟩
      · exact Or.inr ⟨(mem_sourceRows hnew).2.2.1, sourceRows_health hnew⟩
  -- a new row has no history, and the columns of none
  | addSource cityId data =>
      obtain ⟨_, -, -, -, rfl⟩ := addSource_ok hrun
      refine Noted.rows hkeyed' (Nat.le_add_right _ _) ?_
      intro row hrow
      rcases List.mem_append.mp hrow with hold | hnew
      · exact Or.inl ⟨row, hold, rfl, rfl⟩
      · rw [List.mem_singleton.mp hnew]
        exact Or.inr ⟨le_refl _, rfl⟩
  -- PATCH writes none of the five columns
  | updateSource sourceId data =>
      obtain ⟨source, source', hget, happly, rfl⟩ := updateSource_ok hrun
      refine Noted.rows hkeyed' (le_refl _) ?_
      exact put_health (Db.getSource_self hget) (SourceUpdate.apply_ok happly).1.id
        (SourceUpdate.apply_health happly)
  | archiveSource sourceId now =>
      obtain ⟨source, hget, rfl⟩ := archiveSource_ok hrun
      exact Noted.rows hkeyed' (le_refl _) (put_health (Db.getSource_self hget) rfl rfl)
  | archiveCity cityId now =>
      obtain ⟨_, -, -, rfl⟩ := archiveCity_ok hrun
      refine Noted.rows hkeyed' (le_refl _) (cascade_health ?_)
      intro source
      unfold archiveWithCity
      split <;> exact ⟨rfl, rfl⟩
  | unarchiveCity cityId =>
      obtain ⟨_, -, -, rfl⟩ := unarchiveCity_ok hrun
      refine Noted.rows hkeyed' (le_refl _) (cascade_health ?_)
      intro source
      unfold reviveWithCity
      split <;> exact ⟨rfl, rfl⟩
  | updateCity cityId data =>
      obtain ⟨_, _, -, -, rfl⟩ := updateCity_ok hrun
      exact Noted.rows hkeyed' (le_refl _) fun row hrow => Or.inl ⟨row, hrow, rfl, rfl⟩

end Calls

/-! ## §4. What a poll and a check do. -/

/-- A poll that was reported. -/
def pollEvent (time : Time) (sourceId : Nat) (error : Option Str) : SourceEvent where
  sourceId := sourceId
  time := time
  polled := true
  error := error

/-- What a transaction leaves of the row it loaded. -/
structure Polled (source : Source) (time : Time) (ingested : Ingested) : Prop where
  outcome : ingested.outcome.sourceId = source.id
  id : ingested.source.id = source.id
  cityId : ingested.source.cityId = source.cityId
  health : ingested.source.health
    = source.health.note (pollEvent time source.id ingested.outcome.error)

section Polls

variable {P : Platform} {settings : Settings} {w : Weather} {db : Db} {source source' : Source}
  {ingested : Ingested} {attempt : FetchAttempt} {now : Time} {seen : List Str}

theorem recordFetchSuccess_health {headers : Headers}
    (h : recordFetchSuccess P source headers now = .ok source') :
    source'.id = source.id ∧ source'.cityId = source.cityId
      ∧ source'.health = source.health.note (pollEvent now source.id none) := by
  unfold recordFetchSuccess at h
  obtain ⟨maxAge, -, h⟩ := except_bind_ok.mp h
  cases h
  exact ⟨rfl, rfl, rfl⟩

theorem parseResult_polled {cities : List City} {result : FetchResult}
    (h : (parseResult P w cities source result now seen).2 = .ok (.done ingested)) :
    Polled source now ingested := by
  unfold parseResult at h
  split at h
  -- an exception: what is recorded then comes from the caller
  · cases h
  · split at h
    · -- unchanged
      obtain ⟨source', hrecord, h⟩ := except_bind_ok.mp h
      cases h
      obtain ⟨hid, hcity, hhealth⟩ := recordFetchSuccess_health hrecord
      exact ⟨rfl, hid, hcity, hhealth⟩
    · split at h
      · cases h
      · cases h
      · split at h
        · cases h
          exact ⟨rfl, rfl, rfl, rfl⟩
        · -- a feed has rows to insert first
          obtain ⟨rows, -, hrows⟩ := except_map_ok.mp h
          cases hrows

theorem recordInserted_polled {headers : Headers} {new : List Article}
    (h : recordInserted P source headers now new = .ok ingested) :
    Polled source now ingested := by
  unfold recordInserted at h
  obtain ⟨source', hrecord, h⟩ := except_bind_ok.mp h
  cases h
  obtain ⟨hid, hcity, hhealth⟩ := recordFetchSuccess_health hrecord
  exact ⟨rfl, hid, hcity, hhealth⟩

/-- **Every transaction that commits notes one poll.** -/
theorem persistAttempt_polled
    (h : (persistAttempt P w db source attempt seen).2 = .ok ingested) :
    Polled source attempt.attemptedAt ingested := by
  unfold persistAttempt at h
  cases hfetched : attempt.fetched with
  | error e =>
      rw [hfetched] at h
      cases h
      exact ⟨rfl, rfl, rfl, rfl⟩
  | ok result =>
      rw [hfetched] at h
      obtain ⟨parse, hparse, h⟩ := except_bind_ok.mp h
      cases parse with
      | done ingested' =>
          cases h
          exact parseResult_polled hparse
      -- the success is recorded with the rows, after the insert
      | rows rows =>
          have hinsert : insertRows P w db.articles source result.headers attempt.attemptedAt rows
              = .ok ingested := h
          exact recordInserted_polled (insertRows_ok hinsert)

/-- **The persist phase notes what it reports.** -/
theorem persistAttempts_noted {time : Nat → Time} {jobs : List (FetchAttempt × Weather)}
    (hkeyed : db.Keyed) (htime : ∀ job ∈ jobs, time job.1.sourceId = job.1.attemptedAt) :
    Noted db (persistAttempts P jobs db seen).2 ((persistAttempts P jobs db seen).1.map
      fun outcome => pollEvent (time outcome.sourceId) outcome.sourceId outcome.error).reverse := by
  induction jobs generalizing db seen with
  -- one job after another; each finds what the earlier ones have left
  | nil => exact Noted.refl hkeyed
  | cons job rest ih =>
      obtain ⟨hnow, hrest⟩ := List.forall_mem_cons.mp htime
      cases hget : db.getSource job.1.sourceId with
      -- a source that is gone is passed over, and has no outcome
      | none =>
          rw [persistAttempts_gone hget]
          exact ih hkeyed hrest
      | some source =>
          have hself := Db.getSource_self hget
          have hid : source.id = job.1.sourceId := (getRow_some Source.id hget).2
          cases htxn : commitTxn job.2 (persistAttempt P job.2 db source job.1 seen).2 with
          | error e =>
              have hput : Noted db (db.putSource
                  (recordFetchFailure source (persistFailed e) job.1.attemptedAt).1)
                  [pollEvent (time source.id) source.id (some (persistFailed e))] := by
                refine Noted.put hkeyed hself ?_ ?_ ?_ ?_
                · rfl
                · rfl
                · rfl
                · rw [hid, hnow, ← hid]
                  rfl
              rw [persistAttempts_rolledBack hget htxn]
              show Noted db _ ((_ :: _ : List SourceIngestOutcome).map _).reverse
              rw [List.map_cons, List.reverse_cons]
              exact hput.trans (ih hput.keyed hrest)
          | ok ingested =>
              have hpolled := persistAttempt_polled (commitTxn_ok htxn)
              have hput : Noted db (db.commitIngested ingested)
                  [pollEvent (time ingested.outcome.sourceId) ingested.outcome.sourceId
                    ingested.outcome.error] := by
                rw [hpolled.outcome, hid, hnow, ← hid]
                exact (Noted.put hkeyed hself hpolled.id hpolled.cityId rfl
                  hpolled.health).elsewhere rfl rfl rfl rfl
              rw [persistAttempts_committed hget htxn]
              show Noted db _ ((_ :: _ : List SourceIngestOutcome).map _).reverse
              rw [List.map_cons, List.reverse_cons]
              exact hput.trans (ih hput.keyed hrest)

/-- When the fetch phase asked for a source. -/
def askedAt (fetch : FetchTarget → Time × Except Str FetchResult) (targets : List FetchTarget)
    (sourceId : Nat) : Time :=
  ((getRow FetchTarget.sourceId targets sourceId).map fun target => (fetch target).1).getD 0

/-- **A pass notes what it reports.** -/
theorem fetchAndPersist_noted {fetch : FetchTarget → Time × Except Str FetchResult}
    {weather : FetchTarget → Weather} {targets : List FetchTarget} (hkeyed : db.Keyed)
    (htargets : (targets.map (·.sourceId)).Nodup) :
    Noted db (fetchAndPersist P fetch weather targets db).2
      ((fetchAndPersist P fetch weather targets db).1.map fun outcome =>
        pollEvent (askedAt fetch targets outcome.sourceId) outcome.sourceId
          outcome.error).reverse := by
  unfold fetchAndPersist
  split
  · exact Noted.refl hkeyed
  · refine persistAttempts_noted hkeyed ?_
    intro job hjob
    obtain ⟨target, htarget, rfl⟩ := List.mem_map.mp hjob
    show askedAt fetch targets target.sourceId = (fetch target).1
    -- one target for a source, so that its time can be looked up
    unfold askedAt
    rw [getRow_of_mem FetchTarget.sourceId htargets htarget]
    rfl

/-- The targets of a pass are of distinct sources. -/
theorem targets_nodup (hkeyed : db.Keyed) {sources : List Source}
    (hsub : sources.Sublist db.sources) :
    ((sources.map (·.target)).map (·.sourceId)).Nodup := by
  rw [List.map_map]
  exact hkeyed.source_nodup.sublist (hsub.map _)

theorem loadDueTargets_nodup (hkeyed : db.Keyed) (now : Time) (settings : Settings) :
    ((loadDueTargets db now settings).map (·.sourceId)).Nodup :=
  targets_nodup hkeyed (List.filter_sublist.trans List.filter_sublist)

/-- What a check by hand writes back. -/
theorem checkSource_put {net : Internet} {sourceId : Nat} {db' : Db} {answer : SourceCheckResult}
    (h : checkSource P net settings db sourceId now = .ok (db', answer)) :
    ∃ source checked, db.getSource source.id = some source ∧ source.id = sourceId
      ∧ checked.id = source.id ∧ checked.cityId = source.cityId
      ∧ checked.health = source.health.note
        { sourceId := sourceId, time := now, polled := false, error := answer.error }
      ∧ db' = db.putSource checked := by
  unfold checkSource at h
  split at h
  · cases h
  · next source hget =>
      have hself := Db.getSource_self hget
      have hid : source.id = sourceId := (getRow_some Source.id hget).2
      split at h
      · cases h
        refine ⟨source, _, hself, hid, ?_, ?_, ?_, rfl⟩ <;> rfl
      · cases h
      · split at h
        · cases h
        · next checked answer' hcheck =>
            cases h
            -- a response is judged as a feed; both verdicts are written
            unfold checkResponse at hcheck
            obtain ⟨parsed, -, hcheck⟩ := except_bind_ok.mp hcheck
            split at hcheck
            · cases hcheck
              refine ⟨source, _, hself, hid, ?_, ?_, ?_, rfl⟩ <;> rfl
            · cases hcheck
              refine ⟨source, _, hself, hid, ?_, ?_, ?_, rfl⟩ <;> rfl

/-- **A check by hand notes what it answers.** -/
theorem checkSource_noted {net : Internet} {sourceId : Nat} {db' : Db}
    {answer : SourceCheckResult} (hkeyed : db.Keyed)
    (h : checkSource P net settings db sourceId now = .ok (db', answer)) :
    Noted db db'
      [{ sourceId := sourceId, time := now, polled := false, error := answer.error }] := by
  obtain ⟨source, checked, hself, hid, hchecked, hcity, hhealth, rfl⟩ := checkSource_put h
  exact Noted.put hkeyed hself hchecked hcity hid.symm hhealth

end Polls

/-! ## §5. Runs. -/

structure HealthLog where
  db : Db
  /-- Newest first. -/
  events : List SourceEvent := []

inductive HealthAction where
  | tick (now : Time) (fetch : FetchTarget → Time × Except Str FetchResult)
      (weather : FetchTarget → Weather)
  | refresh (cityId : Nat) (fetch : FetchTarget → Time × Except Str FetchResult)
      (weather : FetchTarget → Weather)
  | check (net : Internet) (sourceId : Nat) (now : Time)
  | onboard (call : OnboardingCall)

def healthStep (P : Platform) (settings : Settings) (log : HealthLog) :
    HealthAction → Option HealthLog
  | .tick now fetch weather =>
      let targets := loadDueTargets log.db now settings
      let (outcomes, db) := runTick P settings now fetch weather log.db
      some
        { db := db
          events := (outcomes.map fun outcome => pollEvent (askedAt fetch targets outcome.sourceId)
            outcome.sourceId outcome.error).reverse ++ log.events }
  | .refresh cityId fetch weather =>
      match loadCityTargets log.db cityId, refreshCity P cityId fetch weather log.db with
      | some targets, some (refreshed, db) => some
          { db := db
            events := (refreshed.map fun source => pollEvent (askedAt fetch targets source.sourceId)
              source.sourceId source.error).reverse ++ log.events }
      -- no such city
      | _, _ => some log
  | .check net sourceId now =>
      match checkSource P net settings log.db sourceId now with
      | .ok (db, answer) => some
          { db := db
            events := { sourceId := sourceId, time := now, polled := false, error := answer.error }
              :: log.events }
      -- a 404, or an exception no handler took
      | .error _ => some log
  | .onboard call => (onboardingStep P settings log.db call).map fun db => { log with db := db }

/-- **The columns are the history.** -/
structure HealthLog.Inv (log : HealthLog) : Prop where
  keyed : log.db.Keyed
  fresh : ∀ event ∈ log.events, event.sourceId < log.db.nextSource
  told : ∀ source ∈ log.db.sources, source.health = columnsOf (eventsOf source.id log.events)

section Runs

variable {P : Platform} {settings : Settings} {log log' : HealthLog} {action : HealthAction}

theorem HealthLog.Inv.noted (hinv : log.Inv) {db : Db} {events : List SourceEvent}
    (h : Noted log.db db events) :
    ({ db := db, events := events ++ log.events } : HealthLog).Inv where
  keyed := h.keyed
  fresh := by
    intro event hevent
    rcases List.mem_append.mp hevent with hmem | hmem
    · exact h.fresh event hmem
    · exact lt_of_lt_of_le (hinv.fresh event hmem) h.next
  told := by
    intro source' hmem
    -- a row that was there has the new events on top; a new row has no old ones
    rw [eventsOf_append]
    rcases h.row source' hmem with ⟨source, hmem, hid, hhealth⟩ | ⟨hnew, hhealth⟩
    · rw [hhealth, hinv.told source hmem, hid, columnsOf, columnsOf, List.foldr_append]
    · rw [eventsOf_fresh hnew hinv.fresh, List.append_nil]
      exact hhealth

/-- **Every step keeps the columns true to the history.** -/
theorem healthStep_inv (hinv : log.Inv)
    (hstep : healthStep P settings log action = some log') : log'.Inv := by
  cases action with
  | tick now fetch weather =>
      obtain rfl := Option.some.inj hstep
      exact hinv.noted
        (fetchAndPersist_noted hinv.keyed (loadDueTargets_nodup hinv.keyed now settings))
  | refresh cityId fetch weather =>
      simp only [healthStep] at hstep
      split at hstep
      · next targets refreshed db htargets hrefresh =>
          obtain rfl := Option.some.inj hstep
          unfold refreshCity at hrefresh
          rw [htargets] at hrefresh
          cases hrefresh
          -- targets are rows of the table, so no source is asked twice
          have hnodup : (targets.map (·.sourceId)).Nodup := by
            unfold loadCityTargets at htargets
            obtain ⟨_, -, rfl⟩ := Option.map_eq_some_iff.mp htargets
            exact targets_nodup hinv.keyed List.filter_sublist
          rw [List.map_map]
          exact hinv.noted (fetchAndPersist_noted hinv.keyed hnodup)
      · obtain rfl := Option.some.inj hstep
        exact hinv
  -- a check that raises writes nothing
  | check net sourceId now =>
      simp only [healthStep] at hstep
      split at hstep
      · next db answer hcheck =>
          obtain rfl := Option.some.inj hstep
          exact hinv.noted (checkSource_noted hinv.keyed hcheck)
      · obtain rfl := Option.some.inj hstep
        exact hinv
  | onboard call =>
      obtain ⟨db, hdb, rfl⟩ := Option.map_eq_some_iff.mp hstep
      refine onboardingStep_keeps (I := fun db => HealthLog.Inv { log with db := db }) hdb hinv ?_
      intro hrun
      exact hinv.noted (call.run_noted hinv.keyed hrun)

end Runs

/-! ## §6. What the columns tell. -/

/-- The badge of a source with such a history. -/
def badge (source : Source) (events : List SourceEvent) : HealthState :=
  if source.archivedAt.isSome then .archived
  else if !source.enabled then .paused
  else
    match lastPoll events with
    | none => .unchecked
    | some poll =>
        if poll.error.isSome then .failing
        -- in order when it was last polled: did a check by hand find fault since?
        else if (truthy (lastFound events)).isNone then .ok
        else .stale

/-- How long a source with such a history waits for its next poll. -/
def waitOf (settings : Settings) (source : Source) (events : List SourceEvent) : Int :=
  backoff source.baseSeconds settings.schedulerMaxBackoffSeconds source.doubled
    (min (failuresInARow events) maxBackoffExponent)

/-- What is read off the row of a source is its history. -/
structure HealthRight (db : Db) (settings : Settings) (source : Source)
    (events : List SourceEvent) : Prop where
  badge : healthState source = badge source events
  /-- "Failing, n in a row". -/
  inARow : source.consecutiveFailures = failuresInARow events
  /-- The tick of a card: true of a source that nobody has looked at, too. -/
  tick : isHealthy source = true ↔ source.enabled = true ∧ source.archivedAt = none
    ∧ truthy (lastFound events) = none ∧ failuresInARow events = 0
  /-- "Last checked" is the last event, by hand or not. -/
  checked : (events.Pairwise fun later earlier => earlier.time ≤ later.time) →
    lastCheckedAt source = events.head?.map fun event => dateParse event.time
  /-- The next tick takes it exactly if it is live and has waited since it was last
  polled; a check by hand does not count. -/
  due : ∀ now, source.id ∈ (loadDueTargets db now settings).map (·.sourceId) ↔
    source.enabled = true ∧ source.archivedAt = none
      ∧ ∀ poll ∈ lastPoll events, poll.time + seconds (waitOf settings source events) ≤ now

section Reading

variable {db : Db} {settings : Settings} {source : Source} {events : List SourceEvent}

theorem healthState_badge (h : source.health = columnsOf events) :
    healthState source = badge source events := by
  have hfetched : source.lastFetchedAt = (lastPoll events).map (·.time) :=
    (congrArg (·.lastFetchedAt) h).trans (columnsOf_fetched events)
  have hfailures : source.consecutiveFailures = failuresInARow events :=
    (congrArg (·.consecutiveFailures) h).trans (columnsOf_failures events)
  have herror : source.lastError = lastFound events :=
    (congrArg (·.lastError) h).trans (columnsOf_error events)
  unfold healthState badge
  -- in the order in which `healthState` asks
  cases harchived : source.archivedAt with
  | some time => rfl
  | none =>
      cases henabled : source.enabled with
      | false => rfl
      | true =>
          simp only [Option.isSome_none, Bool.false_eq_true, if_false, Bool.not_true]
          cases hpoll : lastPoll events with
          | none =>
              have hzero : ¬ 0 < failuresInARow events := by
                rw [failuresInARow_pos, hpoll]
                intro hfailed
                obtain ⟨poll, hsome, -⟩ := hfailed
                cases hsome
              rw [hfailures, if_neg hzero, hfetched, hpoll]
              rfl
          | some poll =>
              cases hfound : poll.error with
              | some error =>
                  have hpos : 0 < failuresInARow events :=
                    failuresInARow_pos.mpr ⟨poll, hpoll, by rw [hfound]; rfl⟩
                  rw [hfailures, if_pos hpos]
                  simp [hfound]
              | none =>
                  have hzero : failuresInARow events = 0 := by
                    apply Nat.eq_zero_of_not_pos
                    rw [failuresInARow_pos, hpoll]
                    intro hfailed
                    obtain ⟨poll', hsome, herror'⟩ := hfailed
                    cases hsome
                    rw [hfound] at herror'
                    cases herror'
                  -- "" is an error to the database and none to JavaScript
                  have hhealthy : isHealthy source = (truthy (lastFound events)).isNone := by
                    unfold isHealthy
                    rw [henabled, harchived, herror, hfailures, hzero]
                    simp
                  rw [hfailures, hzero, hfetched, hpoll, hhealthy]
                  simp [hfound]

/-- **The last event is the last stamp**, as the browser reads them. -/
theorem lastCheckedAt_head (h : source.health = columnsOf events)
    (hordered : events.Pairwise fun later earlier => earlier.time ≤ later.time) :
    lastCheckedAt source = events.head?.map fun event => dateParse event.time := by
  have hfetched : source.lastFetchedAt = (lastPoll events).map (·.time) :=
    (congrArg (·.lastFetchedAt) h).trans (columnsOf_fetched events)
  have hsuccess : source.lastSuccessAt = (events.find? (·.error.isNone)).map (·.time) :=
    (congrArg (·.lastSuccessAt) h).trans (columnsOf_success events)
  have herrorAt : source.lastErrorAt
      = events.head?.bind fun event => event.error.map fun _ => event.time :=
    (congrArg (·.lastErrorAt) h).trans (columnsOf_errorAt events)
  unfold lastCheckedAt checkStamps
  rw [hfetched, hsuccess, herrorAt]
  cases events with
  | nil => rfl
  | cons event events =>
      obtain ⟨hbefore, -⟩ := List.pairwise_cons.mp hordered
      -- no stamp is later than the newest event
      have hle : ∀ event' ∈ event :: events, dateParse event'.time ≤ dateParse event.time := by
        intro event' hmem
        rcases List.mem_cons.mp hmem with rfl | hmem
        · exact le_refl _
        · exact Int.ediv_le_ediv (by omega) (hbefore event' hmem)
      show List.max? _ = some (dateParse event.time)
      rw [List.max?_eq_some_iff]
      constructor
      · -- one of the three columns has it
        cases hpolled : event.polled with
        | true => simp [lastPoll, hpolled]
        | false =>
            cases herror : event.error with
            | none => simp [herror]
            | some error =>
                have hcolumn : some event.time ∈ [(lastPoll (event :: events)).map (·.time),
                    ((event :: events).find? (·.error.isNone)).map (·.time),
                    (event :: events).head?.bind fun event =>
                      event.error.map fun _ => event.time] := by
                  simp [herror]
                exact List.mem_map.mpr
                  ⟨event.time, List.mem_filterMap.mpr ⟨some event.time, hcolumn, rfl⟩, rfl⟩
      · intro stamp hstamp
        obtain ⟨time, htime, rfl⟩ := List.mem_map.mp hstamp
        obtain ⟨column, hcolumn, hid⟩ := List.mem_filterMap.mp htime
        -- each of the three columns is the time of some event
        have hfound : ∃ event' ∈ event :: events, event'.time = time := by
          rcases List.mem_cons.mp hcolumn with rfl | hcolumn
          · obtain ⟨poll, hpoll, rfl⟩ := Option.map_eq_some_iff.mp hid
            exact ⟨poll, List.mem_of_find?_eq_some hpoll, rfl⟩
          rcases List.mem_cons.mp hcolumn with rfl | hcolumn
          · obtain ⟨found, hfind, rfl⟩ := Option.map_eq_some_iff.mp hid
            exact ⟨found, List.mem_of_find?_eq_some hfind, rfl⟩
          · obtain rfl := List.mem_singleton.mp hcolumn
            obtain ⟨event', hhead, herror⟩ := Option.bind_eq_some_iff.mp hid
            obtain ⟨_, -, rfl⟩ := Option.map_eq_some_iff.mp herror
            exact ⟨event', List.mem_of_head? hhead, rfl⟩
        obtain ⟨event', hmem, rfl⟩ := hfound
        exact hle event' hmem

/-- **The next poll.** -/
theorem due_iff (hkeyed : db.Keyed) (hmem : source ∈ db.sources)
    (h : source.health = columnsOf events) (now : Time) :
    source.id ∈ (loadDueTargets db now settings).map (·.sourceId) ↔
      source.enabled = true ∧ source.archivedAt = none
        ∧ ∀ poll ∈ lastPoll events,
            poll.time + seconds (waitOf settings source events) ≤ now := by
  have hfetched : source.lastFetchedAt = (lastPoll events).map (·.time) :=
    (congrArg (·.lastFetchedAt) h).trans (columnsOf_fetched events)
  have hfailures : source.consecutiveFailures = failuresInARow events :=
    (congrArg (·.consecutiveFailures) h).trans (columnsOf_failures events)
  have hwait : effectiveIntervalSeconds source settings = waitOf settings source events := by
    rw [effectiveIntervalSeconds_backoff, hfailures]
    rfl
  have hdue : isDue source now settings = true
      ↔ ∀ poll ∈ lastPoll events, poll.time + seconds (waitOf settings source events) ≤ now := by
    unfold isDue
    rw [hfetched, hwait]
    cases lastPoll events with
    | none => simp
    | some poll => simp
  -- a target names one row: the ids are unique
  have htaken : source.id ∈ (loadDueTargets db now settings).map (·.sourceId)
      ↔ source.polled = true ∧ isDue source now settings = true := by
    constructor
    · intro htarget
      obtain ⟨target, htarget, hid⟩ := List.mem_map.mp htarget
      obtain ⟨other, hother, rfl⟩ := List.mem_map.mp htarget
      obtain ⟨hlive, hready⟩ := List.mem_filter.mp hother
      obtain ⟨hin, hpolled⟩ := List.mem_filter.mp hlive
      obtain rfl := List.inj_on_of_nodup_map hkeyed.source_nodup hin hmem hid
      exact ⟨hpolled, hready⟩
    · intro hboth
      refine List.mem_map.mpr ⟨source.target, List.mem_map.mpr ⟨source, ?_, rfl⟩, rfl⟩
      exact List.mem_filter.mpr ⟨List.mem_filter.mpr ⟨hmem, hboth.1⟩, hboth.2⟩
  rw [htaken, hdue, Source.polled, Bool.and_eq_true, Option.isNone_iff_eq_none, and_assoc]

theorem healthRight (hkeyed : db.Keyed) (hmem : source ∈ db.sources)
    (h : source.health = columnsOf events) : HealthRight db settings source events where
  badge := healthState_badge h
  inARow := (congrArg (·.consecutiveFailures) h).trans (columnsOf_failures events)
  tick := by
    -- every clause reads a column, and the columns are folded from the events
    have hfailures : source.consecutiveFailures = failuresInARow events :=
      (congrArg (·.consecutiveFailures) h).trans (columnsOf_failures events)
    have herror : source.lastError = lastFound events :=
      (congrArg (·.lastError) h).trans (columnsOf_error events)
    unfold isHealthy
    rw [hfailures, herror]
    simp only [Bool.and_eq_true, Option.isNone_iff_eq_none, beq_iff_eq, and_assoc]
  checked := lastCheckedAt_head h
  due := due_iff hkeyed hmem h

end Reading

/-- A city, a tick that gets no answer, and a check by hand that finds the feed. -/
def failedThenChecked : List HealthAction :=
  [.onboard (.createCity pune),
    .tick (seconds 60) (fun _ => (seconds 61, .error "timed out".toList)) (fun _ => calm),
    .check everyHost 1 (seconds 90)]

end Feedcast
