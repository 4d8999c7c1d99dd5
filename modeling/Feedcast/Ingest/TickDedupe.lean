/-
  Feedcast.Ingest.TickDedupe — one tick's dedupe set against its transactions.

  `seen_ids` belongs to the tick, the rows to one transaction per source.  An
  attempt that raises takes its rows back and leaves its ids in the set, so a
  later source of the same tick skips them.

    • `persistAttempts_run` — the tick, attempt after attempt,
    • `tick_loses_nothing_iff` — a tick stores every story of every successful
      source exactly if no attempt that raises was the first to reach a story
      that a later successful source carries too.
-/
import Feedcast.Ingest.Transaction
import Feedcast.Schemas.City

namespace Feedcast

open Feedcast.Lib

/-! ## §1. The tick. -/

section Tick

variable (P : Platform) (db : Db)

/-- The ids one attempt of the tick reaches; none, when its source is gone. -/
def jobIds (job : FetchAttempt × Weather) : List Str :=
  match db.getSource job.1.sourceId with
  | none => []
  | some source => sourceIds P db.cities source job

/-- The attempt rolls back, after earlier attempts that reached `earlier`. -/
def JobRaises (job : FetchAttempt × Weather) (earlier : List Str) : Prop :=
  ∃ source, db.getSource job.1.sourceId = some source
    ∧ SourceRaises P db.cities source job earlier

/-- The attempt commits a recognised feed. -/
def JobDelivers (job : FetchAttempt × Weather) (earlier : List Str) : Prop :=
  ∃ source, db.getSource job.1.sourceId = some source
    ∧ ¬ SourceRaises P db.cities source job earlier ∧ feedOf P job.2 job.1 ≠ none

/-- No story is held back: where an attempt `a` that raises is the first of the
tick to reach a story that is not stored, no later attempt `b` that commits a
feed carries that story. -/
def TickIntact (jobs : List (FetchAttempt × Weather)) : Prop :=
  ∀ before a between b after, jobs = before ++ a :: (between ++ b :: after) →
    JobRaises P db a (before.flatMap (jobIds P db)) →
    JobDelivers P db b ((before ++ a :: between).flatMap (jobIds P db)) →
    ∀ x ∈ jobIds P db a, x ∈ jobIds P db b →
      x ∈ before.flatMap (jobIds P db) ∨ x ∈ db.articles.map (·.id)

/-- When the tick returns, every entry of every source reported ok, and not
unchanged, that becomes an article has its id in the table. -/
def TickStores (jobs : List (FetchAttempt × Weather)) : Prop :=
  ∀ job ∈ jobs, ∀ outcome ∈ (persistAttempts P jobs db []).1,
    outcome.sourceId = job.1.sourceId → outcome.ok = true → outcome.notModified = false →
    ∀ source result parsed, db.getSource job.1.sourceId = some source →
    job.1.fetched = .ok result → P.feedparse result.content = .ok parsed →
    ∀ i entry article, parsed.entries[i]? = some entry →
    normalizeEntry P source entry (1 + i) (citySlugMap db.cities) = .ok (some article) →
    article.id ∈ (persistAttempts P jobs db []).2.articles.map (·.id)

/-- The story was first reached by an attempt that rolled back, and is nowhere
else. -/
def Lost (jobs : List (FetchAttempt × Weather)) (x : Str) : Prop :=
  ∃ before a between, jobs = before ++ a :: between
    ∧ JobRaises P db a (before.flatMap (jobIds P db)) ∧ x ∈ jobIds P db a
    ∧ x ∉ before.flatMap (jobIds P db) ∧ x ∉ db.articles.map (·.id)

variable {P db}

theorem lost_snoc {jobs : List (FetchAttempt × Weather)} {job : FetchAttempt × Weather}
    {x : Str} :
    Lost P db (jobs ++ [job]) x ↔ Lost P db jobs x
      ∨ (JobRaises P db job (jobs.flatMap (jobIds P db)) ∧ x ∈ jobIds P db job
          ∧ x ∉ jobs.flatMap (jobIds P db) ∧ x ∉ db.articles.map (·.id)) := by
  constructor
  · -- the attempt that lost the story is the last one, or stands before it
    intro h
    obtain ⟨before, a, between, heq, hlost⟩ := h
    rcases List.eq_nil_or_concat between with rfl | ⟨init, last, rfl⟩
    · obtain ⟨rfl, hjob⟩ := List.append_inj' heq rfl
      cases hjob
      exact Or.inr hlost
    · rw [List.concat_eq_append, ← List.cons_append, ← List.append_assoc] at heq
      obtain ⟨rfl, -⟩ := List.append_inj' heq rfl
      exact Or.inl ⟨before, a, init, rfl, hlost⟩
  · intro h
    -- what was lost before stays lost, whatever the last attempt does
    rcases h with ⟨before, a, between, rfl, hlost⟩ | hlost
    · exact ⟨before, a, between ++ [job], by simp, hlost⟩
    · exact ⟨jobs, job, [], rfl, hlost⟩

theorem Lost.reached {jobs : List (FetchAttempt × Weather)} {x : Str} (h : Lost P db jobs x) :
    x ∈ jobs.flatMap (jobIds P db) := by
  obtain ⟨before, a, between, rfl, -, hx, -, -⟩ := h
  rw [List.flatMap_append, List.flatMap_cons]
  exact List.mem_append_right _ (List.mem_append_left _ hx)

/-- Whether an attempt raises depends on the set of the earlier ids only. -/
theorem sourceRaises_congr {cities : List City} {source : Source}
    {job : FetchAttempt × Weather} {earlier earlier' : List Str}
    (h : ∀ x, x ∈ earlier ↔ x ∈ earlier') :
    SourceRaises P cities source job earlier ↔ SourceRaises P cities source job earlier' := by
  simp only [SourceRaises, ResponseRaises, FeedRaises, h]

/-- What the tick knows after the attempts `done`, with the database at `now`
and the set at `seen`. -/
structure TickState (P : Platform) (db : Db) (done : List (FetchAttempt × Weather)) (now : Db)
    (seen : List Str) : Prop where
  cities : now.cities = db.cities
  sources : ∀ id, (∀ job ∈ done, job.1.sourceId ≠ id) → now.getSource id = db.getSource id
  reached : ∀ x, x ∈ seen ↔ x ∈ done.flatMap (jobIds P db)
  /-- A story of the set is stored unless a rollback took it back. -/
  stored : ∀ x, x ∈ now.articles.map (·.id)
    ↔ x ∈ db.articles.map (·.id) ∨ (x ∈ seen ∧ ¬ Lost P db done x)

theorem TickState.start : TickState P db [] db [] where
  cities := rfl
  sources := fun _ _ => rfl
  reached := by simp
  stored := by simp

theorem getSource_putSource_of_ne {now : Db} {source : Source} {id : Nat}
    (h : source.id ≠ id) : (now.putSource source).getSource id = now.getSource id :=
  getRow_setRow_of_ne Source.id h

/-- The attempt's source is gone: nothing happens. -/
theorem TickState.skip {done : List (FetchAttempt × Weather)} {now : Db} {seen : List Str}
    (h : TickState P db done now seen) {job : FetchAttempt × Weather}
    (hget : db.getSource job.1.sourceId = none) : TickState P db (done ++ [job]) now seen := by
  -- a source that is gone reaches nothing, and loses nothing
  have hids : jobIds P db job = [] := by simp [jobIds, hget]
  have hlost : ∀ x, Lost P db (done ++ [job]) x ↔ Lost P db done x := by
    intro x
    rw [lost_snoc, hids]
    simp
  refine { cities := h.cities, sources := ?_, reached := ?_, stored := ?_ }
  · intro id hne
    exact h.sources id fun j hj => hne j (List.mem_append_left _ hj)
  · intro x
    rw [h.reached, List.flatMap_append]
    simp [hids]
  · intro x
    rw [h.stored, hlost]

/-- The set after one more attempt, committed or not. -/
theorem TickState.mem_seen {done : List (FetchAttempt × Weather)} {now : Db} {seen : List Str}
    (h : TickState P db done now seen) {job : FetchAttempt × Weather} {source : Source}
    (hget : db.getSource job.1.sourceId = some source) (x : Str) :
    x ∈ (persistAttempt P job.2 now source job.1 seen).1
      ↔ x ∈ (done ++ [job]).flatMap (jobIds P db) := by
  rw [mem_persistAttempt_seen, h.reached, h.cities, List.flatMap_append, List.mem_append]
  simp [jobIds, hget]

theorem TickState.raises_iff {done : List (FetchAttempt × Weather)} {now : Db}
    {seen : List Str} (h : TickState P db done now seen) {job : FetchAttempt × Weather}
    {source : Source} (hget : db.getSource job.1.sourceId = some source) :
    (∃ e, commitTxn job.2 (persistAttempt P job.2 now source job.1 seen).2 = .error e)
      ↔ JobRaises P db job (done.flatMap (jobIds P db)) := by
  rw [persistAttempt_error_iff, h.cities, sourceRaises_congr h.reached]
  -- the session finds the row it was loaded for
  constructor
  · intro hraises
    exact ⟨source, hget, hraises⟩
  · intro hjob
    obtain ⟨source', hget', hraises⟩ := hjob
    rw [hget] at hget'
    cases hget'
    exact hraises

/-- **A committed attempt**: what it reached is stored, unless it was lost
before. -/
theorem TickState.commit {done : List (FetchAttempt × Weather)} {now : Db} {seen : List Str}
    (h : TickState P db done now seen) {job : FetchAttempt × Weather} {source : Source}
    (hget : db.getSource job.1.sourceId = some source) {ingested : Ingested}
    (htxn : commitTxn job.2 (persistAttempt P job.2 now source job.1 seen).2 = .ok ingested) :
    TickState P db (done ++ [job]) (now.commitIngested ingested)
      (persistAttempt P job.2 now source job.1 seen).1 := by
  obtain ⟨hid, -, -, harticles⟩ := persistAttempt_ok (commitTxn_ok htxn)
  have hquiet : ¬ JobRaises P db job (done.flatMap (jobIds P db)) := by
    intro hraises
    obtain ⟨e, he⟩ := (h.raises_iff hget).mpr hraises
    rw [htxn] at he
    cases he
  have hlost : ∀ x, Lost P db (done ++ [job]) x ↔ Lost P db done x := by
    intro x
    rw [lost_snoc]
    simp [hquiet]
  have hids : ∀ x, x ∈ sourceIds P now.cities source job ↔ x ∈ jobIds P db job := by
    intro x
    simp [jobIds, hget, h.cities]
  refine { cities := h.cities, sources := ?_, reached := h.mem_seen hget, stored := ?_ }
  · -- the commit writes the row of its own source
    intro id hne
    have hjob : job.1.sourceId ≠ id := hne job (List.mem_append_right _ (List.mem_singleton_self _))
    have hsid : source.id = job.1.sourceId := (getRow_some Source.id hget).2
    have hput : (now.putSource ingested.source).getSource id = now.getSource id :=
      getSource_putSource_of_ne (by rw [hid, hsid]; exact hjob)
    show (now.putSource ingested.source).getSource id = _
    rw [hput]
    exact h.sources id fun j hj => hne j (List.mem_append_left _ hj)
  · intro x
    show x ∈ (now.articles ++ ingested.articles).map (·.id) ↔ _
    rw [harticles, h.stored, hlost, h.mem_seen hget, List.flatMap_append, List.mem_append, hids,
      ← h.reached]
    simp only [List.flatMap_cons, List.flatMap_nil, List.append_nil]
    -- an id of the set was skipped, any other one inserted
    by_cases hseen : x ∈ seen
    · simp [hseen]
    · have hnl : ¬ Lost P db done x := fun hl => hseen ((h.reached x).mpr hl.reached)
      simp [hseen, hnl]

/-- **A rolled-back attempt**: its rows are gone, its ids stay in the set. -/
theorem TickState.rollback {done : List (FetchAttempt × Weather)} {now : Db} {seen : List Str}
    (h : TickState P db done now seen) {job : FetchAttempt × Weather} {source source' : Source}
    (hget : db.getSource job.1.sourceId = some source) {e : Str}
    (htxn : commitTxn job.2 (persistAttempt P job.2 now source job.1 seen).2 = .error e)
    (hid : source'.id = source.id) :
    TickState P db (done ++ [job]) (now.putSource source')
      (persistAttempt P job.2 now source job.1 seen).1 := by
  have hraises : JobRaises P db job (done.flatMap (jobIds P db)) :=
    (h.raises_iff hget).mp ⟨e, htxn⟩
  refine { cities := h.cities, sources := ?_, reached := h.mem_seen hget, stored := ?_ }
  · intro id hne
    have hjob : job.1.sourceId ≠ id := hne job (List.mem_append_right _ (List.mem_singleton_self _))
    have hsid : source.id = job.1.sourceId := (getRow_some Source.id hget).2
    rw [getSource_putSource_of_ne (by rw [hid, hsid]; exact hjob)]
    exact h.sources id fun j hj => hne j (List.mem_append_left _ hj)
  · intro x
    show x ∈ now.articles.map (·.id) ↔ _
    rw [h.stored, lost_snoc, h.mem_seen hget, List.flatMap_append, List.mem_append, ← h.reached]
    simp only [List.flatMap_cons, List.flatMap_nil, List.append_nil, hraises, true_and]
    -- an id the rollback took back is in the set from now on, and lost
    by_cases hseen : x ∈ seen
    · simp [hseen]
    · by_cases hdb : x ∈ db.articles.map (·.id)
      · simp [hdb]
      · simp only [hdb, hseen, false_or, false_and, not_false_eq_true, and_true]
        constructor
        · exact False.elim
        · intro hlater
          obtain ⟨hx, hnl⟩ := hlater
          exact hnl (Or.inr hx)

/-- The source of an outcome, and whether it delivered a feed. -/
def Delivered (outcomes : List SourceIngestOutcome) (sourceId : Nat) : Prop :=
  ∃ outcome ∈ outcomes, outcome.sourceId = sourceId ∧ outcome.ok = true
    ∧ outcome.notModified = false

theorem delivered_cons_of_ne {outcome : SourceIngestOutcome}
    {outcomes : List SourceIngestOutcome} {sourceId : Nat} (h : outcome.sourceId ≠ sourceId) :
    Delivered (outcome :: outcomes) sourceId ↔ Delivered outcomes sourceId := by
  unfold Delivered
  rw [List.exists_mem_cons_iff]
  constructor
  · intro h
    rcases h with ⟨hid, -⟩ | ho
    · exact absurd hid h
    · exact ho
  · exact Or.inr

theorem delivered_cons_self {outcome : SourceIngestOutcome}
    {outcomes : List SourceIngestOutcome} {sourceId : Nat} (hid : outcome.sourceId = sourceId)
    (h : ∀ o ∈ outcomes, o.sourceId ≠ sourceId) :
    Delivered (outcome :: outcomes) sourceId
      ↔ outcome.ok = true ∧ outcome.notModified = false := by
  unfold Delivered
  rw [List.exists_mem_cons_iff]
  -- each source comes once, so the outcome at the head is its only one
  constructor
  · intro h
    rcases h with ⟨-, ho⟩ | ⟨o, ho, hoid, -⟩
    · exact ho
    · exact absurd hoid (h o ho)
  · intro ho
    exact Or.inl ⟨hid, ho⟩

/-- What the attempts `rest` of a tick do after the attempts `done`. -/
structure TickRun (P : Platform) (db : Db) (done rest : List (FetchAttempt × Weather))
    (outcomes : List SourceIngestOutcome) (final : Db) : Prop where
  state : ∃ seen, TickState P db (done ++ rest) final seen
  sources : ∀ outcome ∈ outcomes, outcome.sourceId ∈ rest.map (·.1.sourceId)
  delivered : ∀ before job after, rest = before ++ job :: after →
    (Delivered outcomes job.1.sourceId
      ↔ JobDelivers P db job ((done ++ before).flatMap (jobIds P db)))

/-- One more attempt in front of a run that reports on it alone. -/
theorem TickRun.cons {done rest : List (FetchAttempt × Weather)}
    {outcomes : List SourceIngestOutcome} {final : Db} {job : FetchAttempt × Weather}
    {outcome : SourceIngestOutcome} (h : TickRun P db (done ++ [job]) rest outcomes final)
    (hfresh : job.1.sourceId ∉ rest.map (·.1.sourceId))
    (hid : outcome.sourceId = job.1.sourceId)
    (hok : (outcome.ok = true ∧ outcome.notModified = false)
      ↔ JobDelivers P db job (done.flatMap (jobIds P db))) :
    TickRun P db done (job :: rest) (outcome :: outcomes) final := by
  refine { state := ?_, sources := ?_, delivered := ?_ }
  · simpa using h.state
  · intro o ho
    rw [List.map_cons, List.mem_cons]
    rcases List.mem_cons.mp ho with rfl | ho
    · exact Or.inl hid
    · exact Or.inr (h.sources o ho)
  · intro before b after heq
    cases before with
    | nil =>
        obtain ⟨rfl, rfl⟩ := List.cons.inj heq
        rw [List.append_nil, ← hok]
        -- no later outcome is of the same source
        refine delivered_cons_self hid ?_
        intro o ho hoid
        exact hfresh (hoid ▸ h.sources o ho)
    | cons first before =>
        obtain ⟨rfl, rfl⟩ := List.cons.inj heq
        rw [delivered_cons_of_ne, h.delivered before b after rfl]
        · simp
        · intro heq'
          rw [hid] at heq'
          exact hfresh (List.mem_map.mpr ⟨b, by simp, heq'.symm⟩)

/-- One more attempt in front of a run that does not report on it. -/
theorem TickRun.skip {done rest : List (FetchAttempt × Weather)}
    {outcomes : List SourceIngestOutcome} {final : Db} {job : FetchAttempt × Weather}
    (h : TickRun P db (done ++ [job]) rest outcomes final)
    (hfresh : job.1.sourceId ∉ rest.map (·.1.sourceId))
    (hgone : db.getSource job.1.sourceId = none) :
    TickRun P db done (job :: rest) outcomes final := by
  refine { state := by simpa using h.state, sources := ?_, delivered := ?_ }
  · intro o ho
    rw [List.map_cons]
    exact List.mem_cons_of_mem _ (h.sources o ho)
  · intro before b after heq
    cases before with
    | nil =>
        obtain ⟨rfl, rfl⟩ := List.cons.inj heq
        constructor
        · intro hdelivered
          -- the outcomes are those of the jobs behind it
          obtain ⟨o, ho, hoid, -⟩ := hdelivered
          exact absurd (hoid ▸ h.sources o ho) hfresh
        · intro hdelivers
          obtain ⟨source, hsource, -⟩ := hdelivers
          rw [hgone] at hsource
          cases hsource
    | cons first before =>
        obtain ⟨rfl, rfl⟩ := List.cons.inj heq
        rw [h.delivered before b after rfl]
        simp

/-- **The tick, attempt after attempt.** -/
theorem persistAttempts_run (rest : List (FetchAttempt × Weather)) :
    ∀ (done : List (FetchAttempt × Weather)) (now : Db) (seen : List Str),
      TickState P db done now seen → ((done ++ rest).map (·.1.sourceId)).Nodup →
      TickRun P db done rest (persistAttempts P rest now seen).1
        (persistAttempts P rest now seen).2 := by
  induction rest with
  | nil =>
      intro done now seen h _
      exact { state := ⟨seen, by simpa [persistAttempts] using h⟩
              sources := by simp [persistAttempts]
              delivered := by simp }
  | cons job rest ih =>
      intro done now seen h hnd
      have hnd' : ((done ++ [job] ++ rest).map (·.1.sourceId)).Nodup := by simpa using hnd
      have hdistinct := List.nodup_append.mp (by simpa using hnd)
      have hdone : ∀ j ∈ done, j.1.sourceId ≠ job.1.sourceId := by
        intro j hj
        exact hdistinct.2.2 _ (List.mem_map_of_mem hj) _ List.mem_cons_self
      have hfresh : job.1.sourceId ∉ rest.map (·.1.sourceId) :=
        (List.nodup_cons.mp hdistinct.2.1).1
      -- no earlier attempt of the tick has touched this source
      have hnow := h.sources job.1.sourceId hdone
      cases hget : db.getSource job.1.sourceId with
      | none =>
          rw [persistAttempts_gone (hnow.trans hget)]
          -- an attempt that is skipped reports nothing
          exact (ih (done ++ [job]) now seen (h.skip hget) hnd').skip hfresh hget
      | some source =>
          have hsid : source.id = job.1.sourceId := (getRow_some Source.id hget).2
          cases htxn : commitTxn job.2 (persistAttempt P job.2 now source job.1 seen).2 with
          | ok ingested =>
              rw [persistAttempts_committed (hnow.trans hget) htxn]
              obtain ⟨-, hoid, hok, -⟩ := persistAttempt_ok (commitTxn_ok htxn)
              refine (ih (done ++ [job]) _ _ (h.commit hget htxn) hnd').cons hfresh
                (hoid.trans hsid) ?_
              rw [hok]
              -- it committed, so it did not raise
              constructor
              · intro hfeed
                refine ⟨source, hget, ?_, hfeed⟩
                intro hraises
                obtain ⟨e, he⟩ := (h.raises_iff hget).mpr ⟨source, hget, hraises⟩
                rw [htxn] at he
                cases he
              · intro h
                obtain ⟨-, -, -, hfeed⟩ := h
                exact hfeed
          | error e =>
              rw [persistAttempts_rolledBack (hnow.trans hget) htxn]
              have hrolled : TickState P db (done ++ [job]) (now.putSource
                  (recordFetchFailure source (persistFailed e) job.1.attemptedAt).1)
                  (persistAttempt P job.2 now source job.1 seen).1 :=
                h.rollback hget htxn rfl
              refine (ih (done ++ [job]) _ _ hrolled hnd').cons hfresh hsid ?_
              -- a failure record delivers no feed, and neither does the attempt
              simp only [recordFetchFailure, Bool.false_eq_true, false_and, false_iff]
              intro h
              obtain ⟨source', hget', hquiet, -⟩ := h
              obtain ⟨source'', hget'', hraises⟩ := (h.raises_iff hget).mp ⟨e, htxn⟩
              rw [hget'] at hget''
              cases hget''
              exact hquiet hraises

/-- The entries of a feed that a transaction committed are among its ids. -/
theorem JobDelivers.reaches {job : FetchAttempt × Weather} {earlier : List Str}
    (h : JobDelivers P db job earlier) {source : Source} {result : FetchResult} {parsed : Parsed}
    (hget : db.getSource job.1.sourceId = some source) (hfetched : job.1.fetched = .ok result)
    (hparsed : P.feedparse result.content = .ok parsed) {i : Nat} {entry : Entry}
    {article : ArticleRow} (hi : parsed.entries[i]? = some entry)
    (ha : normalizeEntry P source entry (1 + i) (citySlugMap db.cities) = .ok (some article)) :
    article.id ∈ jobIds P db job := by
  obtain ⟨source', hget', hquiet, hfeed⟩ := h
  rw [hget] at hget'
  cases hget'
  unfold feedOf at hfeed
  simp only [hfetched, hparsed] at hfeed
  split at hfeed
  · exact absurd rfl hfeed
  · next hclear =>
      split at hfeed
      · exact absurd rfl hfeed
      · next hversion =>
          have hof : feedOf P job.2 job.1 = some parsed := by
            simp [feedOf, hfetched, hparsed, hclear, hversion]
          -- a job that delivers met no error, so every entry was reached
          have hentries : ¬ EntriesRaise P job.2 source (citySlugMap db.cities) 1
              parsed.entries := by
            intro hraise
            refine hquiet (Or.inr ?_)
            simp only [hfetched]
            have h304 : ¬ result.statusCode = 304 := fun h => hclear (Or.inr (Or.inl h))
            simp only [ResponseRaises, h304, if_false, hparsed]
            exact Or.inr (Or.inr ⟨hversion, Or.inl hraise⟩)
          simp only [jobIds, hget, sourceIds, hof]
          exact reachedIds_of_entry hentries hi ha

/-- Every id an attempt reaches is that of an entry of its feed. -/
theorem entry_of_jobIds {job : FetchAttempt × Weather} {x : Str} (h : x ∈ jobIds P db job) :
    ∃ source result parsed i entry article, db.getSource job.1.sourceId = some source
      ∧ job.1.fetched = .ok result ∧ P.feedparse result.content = .ok parsed
      ∧ parsed.entries[i]? = some entry
      ∧ normalizeEntry P source entry (1 + i) (citySlugMap db.cities) = .ok (some article)
      ∧ article.id = x := by
  unfold jobIds at h
  cases hget : db.getSource job.1.sourceId with
  | none => simp [hget] at h
  | some source =>
      simp only [hget, sourceIds] at h
      cases hof : feedOf P job.2 job.1 with
      | none => simp [hof] at h
      | some parsed =>
          simp only [hof] at h
          obtain ⟨i, entry, article, hi, ha, hid⟩ := entry_of_reachedIds h
          -- and the feed is what the parser made of the response
          unfold feedOf at hof
          cases hfetched : job.1.fetched with
          | error e => simp [hfetched] at hof
          | ok result =>
              cases hparsed : P.feedparse result.content with
              | error e => simp [hfetched, hparsed] at hof
              | ok parsed' =>
                  simp only [hfetched, hparsed] at hof
                  split at hof
                  · cases hof
                  · split at hof
                    · cases hof
                    · cases hof
                      exact ⟨source, result, parsed, i, entry, article, rfl, rfl, hparsed, hi, ha,
                        hid⟩

end Tick

/-- **A TICK LOSES NO STORY** exactly if no attempt that rolls back was the
first to reach a story that a later committed feed carries too. -/
theorem tick_loses_nothing_iff (P : Platform) (db : Db)
    (jobs : List (FetchAttempt × Weather)) (hdistinct : (jobs.map (·.1.sourceId)).Nodup) :
    TickStores P db jobs ↔ TickIntact P db jobs := by
  obtain ⟨⟨seen, hstate⟩, -, hdelivered⟩ :=
    persistAttempts_run jobs [] db [] TickState.start (by simpa using hdistinct)
  rw [List.nil_append] at hstate
  simp only [List.nil_append] at hdelivered
  constructor
  · -- a story held back is one that `b` carries and the table does not have
    intro hstores before a between b after heq hraises hdelivers x hxa hxb
    by_contra hnew
    rw [not_or] at hnew
    have hsplit : jobs = (before ++ a :: between) ++ b :: after := by simp [heq]
    have hlost : Lost P db jobs x :=
      ⟨before, a, between ++ b :: after, heq, hraises, hxa, hnew.1, hnew.2⟩
    obtain ⟨o, ho, hoid, hok, hmod⟩ := (hdelivered _ b after hsplit).mpr hdelivers
    obtain ⟨source, result, parsed, i, entry, article, hget, hfetched, hparsed, hi, ha, rfl⟩ :=
      entry_of_jobIds hxb
    have hstored := hstores b (by simp [heq]) o ho hoid hok hmod source result parsed hget
      hfetched hparsed i entry article hi ha
    rcases (hstate.stored article.id).mp hstored with hdb | ⟨-, hnl⟩
    · exact hnew.2 hdb
    · exact hnl hlost
  · intro hintact job hjob o ho hoid hok hmod source result parsed hget hfetched hparsed i entry
      article hi ha
    have hdel : Delivered (persistAttempts P jobs db []).1 job.1.sourceId :=
      ⟨o, ho, hoid, hok, hmod⟩
    obtain ⟨before, after, heq⟩ := List.append_of_mem hjob
    have hreach : article.id ∈ jobIds P db job :=
      ((hdelivered before job after heq).mp hdel).reaches hget hfetched hparsed hi ha
    rw [hstate.stored, hstate.reached]
    by_cases hdb : article.id ∈ db.articles.map (·.id)
    · exact Or.inl hdb
    · refine Or.inr ⟨List.mem_flatMap.mpr ⟨job, hjob, hreach⟩, ?_⟩
      intro h
      obtain ⟨p, a, m, heq', hraises, hxa, hnew, -⟩ := h
      -- where the attempt that lost the story stands against this one
      rw [heq', List.mem_append, List.mem_cons] at hjob
      rcases hjob with hbefore | rfl | hafter
      · exact hnew (List.mem_flatMap.mpr ⟨job, hbefore, hreach⟩)
      · obtain ⟨s, hs, hquiet, -⟩ := (hdelivered p job m heq').mp hdel
        obtain ⟨s', hs', hraise⟩ := hraises
        rw [hs] at hs'
        cases hs'
        exact hquiet hraise
      · obtain ⟨between, rest, rfl⟩ := List.append_of_mem hafter
        have hsplit : jobs = (p ++ a :: between) ++ job :: rest := by simp [heq']
        rcases hintact p a between job rest heq' hraises ((hdelivered _ job rest hsplit).mp hdel)
          article.id hxa hreach with h | h
        · exact hnew h
        · exact hdb h

/-! ## §2. A story two sources carry. -/

/-- The entry of the test feed that carries no city. -/
def drainageEntry : Entry where
  link := some "https://example.test/news/drainage-project".toList
  title := some "City council approves drainage project".toList

/-- A platform on which every body is the feed of that entry. -/
def oneStory : Platform :=
  asciiPlatform fun _ =>
    .ok { version := "rss20".toList, bozo := false, bozoException := []
          entries := [drainageEntry] }

/-- Two sources of one city, nothing ingested yet. -/
def twoSources : Db where
  cities := [{ id := 1, name := "Nagpur".toList, slug := "nagpur".toList, state := none
               archivedAt := none }]
  sources := [testTimes.row 1 1, testTimes.row 2 1]

/-- Its feed arrived. -/
def fetchedAt (sourceId : Nat) : FetchAttempt where
  sourceId := sourceId
  attemptedAt := 0
  fetched := .ok { statusCode := 200, headers := {}, content := [], finalUrl := testTimes.feedUrl }

def calm : Weather where
  raises := fun _ => none
  dbNow := 0

def commitFails : Weather where
  raises := fun p => if p = .commit then some "deadlock".toList else none
  dbNow := 0

/-- Both feeds arrive; the commit of the first source fails. -/
def firstCommitFails : List (FetchAttempt × Weather) :=
  [(fetchedAt 1, commitFails), (fetchedAt 2, calm)]

theorem firstCommitFails_outcomes :
    (persistAttempts oneStory firstCommitFails twoSources []).1
        = [{ sourceId := 1, ok := false, newArticles := 0
             error := some "persist failed: deadlock".toList },
          { sourceId := 2, ok := true, newArticles := 0, error := none }]
      ∧ (persistAttempts oneStory firstCommitFails twoSources []).2.articles = [] := by
  decide +kernel

/-- The second source is reported ok, and its story is in no row. -/
theorem firstCommitFails_loses : ¬ TickStores oneStory twoSources firstCommitFails := by
  intro h
  obtain ⟨houtcomes, harticles⟩ := firstCommitFails_outcomes
  have hcarries : jobIds oneStory twoSources (fetchedAt 2, calm) ≠ [] := by decide +kernel
  obtain ⟨x, hx⟩ := List.exists_mem_of_ne_nil _ hcarries
  obtain ⟨source, result, parsed, i, entry, article, hget, hfetched, hparsed, hi, ha, -⟩ :=
    entry_of_jobIds hx
  -- the second source is reported fetched, and its story is nowhere
  have houtcome : ({ sourceId := 2, ok := true, newArticles := 0, error := none } :
      SourceIngestOutcome) ∈ (persistAttempts oneStory firstCommitFails twoSources []).1 := by
    rw [houtcomes]
    exact .tail _ (.head _)
  have hstored := h (fetchedAt 2, calm) (.tail _ (.head _)) _ houtcome rfl rfl rfl source result
    parsed hget hfetched hparsed i entry article hi ha
  rw [harticles] at hstored
  cases hstored

/-- The two attempts are over distinct sources. -/
theorem tick_loses_nothing_iff_firstCommitFails :
    (firstCommitFails.map (·.1.sourceId)).Nodup ∧
      (TickStores oneStory twoSources firstCommitFails
        ↔ TickIntact oneStory twoSources firstCommitFails) :=
  ⟨by decide, tick_loses_nothing_iff oneStory twoSources firstCommitFails (by decide)⟩

end Feedcast
