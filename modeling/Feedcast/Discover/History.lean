/-
  Feedcast.Discover.History — the feed is what came in and what was judged.

  Ticks and refreshes insert rows, passes of the classifier label them, and the
  feed is computed anew for every request.  Beside the database runs the history:
  the rows as they came in, and the results as they were written.

    • `Tells` — what a row is, from its arrival and its verdict,
    • `FeedWorld.step_inv` — every step keeps the table true to the history, and
      no story gets a second arrival or a second verdict,
    • `listed_iff` — what the feed lists of such a table,
    • `feed_is_history` — hence over every run; and what a verdict settles.
-/
import Feedcast.Classifier.Backlog
import Feedcast.Discover.Paging
import Feedcast.Discover.Window
import Feedcast.Polling.Health
import Feedcast.Lib.Traverse

namespace Feedcast

open Feedcast.Lib

/-! ## §1. The history. -/

/-- The loop with its database, and what has happened to the articles in it. -/
structure FeedWorld where
  loop : LoopWorld
  /-- The rows, as they were inserted. -/
  arrived : List Article := []
  /-- The results that were written, each with its story. -/
  verdicts : List (Str × TitleClassification) := []

def FeedWorld.verdict (w : FeedWorld) (id : Str) : Option TitleClassification :=
  Dict.get w.verdicts id

inductive PipelineEvent where
  /-- A tick, a refresh, a check by hand, or a city or source call. -/
  | call (action : HealthAction)
  /-- The classifier, or a part of a tick. -/
  | loop (event : LoopEvent)

/-- The results a pass writes. -/
def verdictsOf (settings : Settings) (validate : Str → Raises (List TitleClassification))
    (w : LoopWorld) : LoopEvent → List (Str × TitleClassification)
  | .pass (.reply client) => (w.pending.map (·.articleId)).filterMap fun id =>
      (Dict.get (assignedResults settings validate client w.pending) id).map (id, ·)
  | _ => []

def FeedWorld.step (P : Platform) (settings : Settings)
    (validate : Str → Raises (List TitleClassification)) (w : FeedWorld) :
    PipelineEvent → Option FeedWorld
  | .call action => (healthStep P settings { db := w.loop.db } action).map fun log =>
      { w with
        loop := { w.loop with db := log.db }
        arrived := w.arrived ++ log.db.articles.drop w.loop.db.articles.length }
  | .loop event => (loopStep P settings validate w.loop event).map fun loop =>
      { loop := loop
        arrived := w.arrived ++ loop.db.articles.drop w.loop.db.articles.length
        verdicts := w.verdicts ++ verdictsOf settings validate w.loop event }

/-- **What a row is**: as it came in, with the labels of its verdict. -/
structure Tells (verdict : Option TitleClassification) (arrival article : Article) : Prop where
  ingested : article.toArticleRow = arrival.toArticleRow
  arrived : article.fetchedAt = arrival.fetchedAt
  labels : article.labels = verdict.elim arrival.labels (·.labels)

/-- **The table is the history.** -/
structure FeedWorld.Inv (settings : Settings) (w : FeedWorld) : Prop where
  loop : w.loop.Inv settings
  keyed : w.loop.db.Keyed
  /-- No story is judged twice. -/
  once : (w.verdicts.map (·.1)).Nodup
  known : ∀ id ∈ w.verdicts.map (·.1), id ∈ w.loop.db.articles.map (·.id)
  inserted : ∀ arrival ∈ w.arrived, ∃ now row, arrival = ArticleRow.insert now row
  told : List.Forall₂ (fun arrival article => Tells (w.verdict arrival.id) arrival article)
    w.arrived w.loop.db.articles
  homed : ∀ article ∈ w.loop.db.articles, article.sourceId ∈ w.loop.db.sources.map Source.id

/-- Nothing onboarded, nothing fetched. -/
def FeedWorld.start : FeedWorld where
  loop := { db := Db.empty }

/-- **Some page of the feed shows the story.** -/
def Listed (P : Platform) (settings : Settings) (db : Db) (query : StoriesQuery) (now : Time)
    (id : Str) : Prop :=
  ∃ offset rows, rows.Perm (windowRows settings db query now)
    ∧ id ∈ (listStories P settings db (query.at offset) rows).map (·.id)

/-- What the filters and the admission tests make of a verdict, or of the want of
one: without it a story has no category, and its form is not asked for. -/
def Passes (settings : Settings) (query : StoriesQuery) (arrival : Article) (source : Source) :
    Option TitleClassification → Prop
  | none => query.category.getD [] = [] ∧ deriveIsLocal arrival source
  | some result =>
      (query.category.getD [] = [] ∨ result.category ∈ query.category.getD [])
        ∧ result.contentType ∈ settings.discoverableContentTypes
        ∧ (result.isCityRelevant
            ∨ clampUnit result.confidence < settings.classifyConfidenceFloor)

/-- **A story the history puts in the feed.**  Whether its source or its city is
archived is not asked. -/
structure Deserves (settings : Settings) (w : FeedWorld) (query : StoriesQuery) (now : Time)
    (arrival : Article) (source : Source) : Prop where
  cameIn : arrival ∈ w.arrived
  home : w.loop.db.getSource arrival.sourceId = some source
  recent : windowStart settings now ≤ arrival.occurredAt
  covered : ∀ cityId ∈ query.cityId, (source.cityId : Int) = cityId
  passes : Passes settings query arrival source (w.verdict arrival.id)

/-! ## §2. Sources stay where they are. -/

/-- No source goes, or moves to another city. -/
def SourcesStay (db db' : Db) : Prop :=
  ∀ source ∈ db.sources, ∃ source' ∈ db'.sources,
    source'.id = source.id ∧ source'.cityId = source.cityId

section Stay

variable {P : Platform} {settings : Settings} {db db' db'' : Db} {source source' : Source}

theorem SourcesStay.refl (db : Db) : SourcesStay db db :=
  fun source hmem => ⟨source, hmem, rfl, rfl⟩

theorem SourcesStay.trans (h : SourcesStay db db') (h' : SourcesStay db' db'') :
    SourcesStay db db'' := by
  intro source hmem
  obtain ⟨source', hmem', hid, hcity⟩ := h source hmem
  obtain ⟨source'', hmem'', hid', hcity'⟩ := h' source' hmem'
  exact ⟨source'', hmem'', hid'.trans hid, hcity'.trans hcity⟩

theorem SourcesStay.of_sublist (h : db.sources.Sublist db'.sources) : SourcesStay db db' :=
  fun source hmem => ⟨source, h.subset hmem, rfl, rfl⟩

theorem SourcesStay.of_map {stamp : Source → Source} (hsources : db'.sources = db.sources.map stamp)
    (hstamp : ∀ source, (stamp source).id = source.id ∧ (stamp source).cityId = source.cityId) :
    SourcesStay db db' := by
  intro source hmem
  refine ⟨stamp source, ?_, hstamp source⟩
  rw [hsources]
  exact List.mem_map_of_mem hmem

/-- A row that is written back. -/
theorem SourcesStay.put (hnodup : (db.sources.map Source.id).Nodup)
    (hget : db.getSource source.id = some source) (hid : source'.id = source.id)
    (hcity : source'.cityId = source.cityId)
    (hsources : db'.sources = (db.putSource source').sources) :
    SourcesStay db db' := by
  intro row hmem
  rw [hsources]
  -- keys are unique, so that the row with the id is the one that was read
  by_cases hrow : row.id = source.id
  · have hsame : row = source :=
      List.inj_on_of_nodup_map hnodup hmem (getRow_some Source.id hget).1 hrow
    refine ⟨source', ?_, ?_, ?_⟩
    · refine (mem_setRow Source.id).mpr (Or.inl ⟨rfl, ?_⟩)
      exact List.mem_map.mpr ⟨source, (getRow_some Source.id hget).1, hid.symm⟩
    · rw [hsame, hid]
    · rw [hsame, hcity]
  · refine ⟨row, (mem_setRow Source.id).mpr (Or.inr ⟨hmem, ?_⟩), rfl, rfl⟩
    rw [hid]
    exact hrow

theorem OnboardingCall.run_stay {call : OnboardingCall} (hkeyed : db.Keyed)
    (hrun : call.run P settings db = .ok db') : SourcesStay db db' := by
  cases call with
  | createCity data =>
      obtain ⟨-, -, rfl⟩ := createCity_ok hrun
      exact SourcesStay.of_sublist (List.sublist_append_left _ _)
  | addSource cityId data =>
      obtain ⟨_, -, -, -, rfl⟩ := addSource_ok hrun
      exact SourcesStay.of_sublist (List.sublist_append_left _ _)
  | updateSource sourceId data =>
      obtain ⟨source, source', hget, happly, rfl⟩ := updateSource_ok hrun
      obtain ⟨hplace, -⟩ := SourceUpdate.apply_ok happly
      exact SourcesStay.put hkeyed.source_nodup (Db.getSource_self hget) hplace.id hplace.cityId rfl
  | archiveSource sourceId now =>
      obtain ⟨source, hget, rfl⟩ := archiveSource_ok hrun
      refine SourcesStay.put hkeyed.source_nodup (Db.getSource_self hget) ?_ ?_ rfl <;> rfl
  -- the sources of a city are flagged or revived, and stay where they are
  | archiveCity cityId now =>
      obtain ⟨_, -, -, rfl⟩ := archiveCity_ok hrun
      refine SourcesStay.of_map rfl ?_
      intro source
      unfold archiveWithCity
      split <;> exact ⟨rfl, rfl⟩
  | unarchiveCity cityId =>
      obtain ⟨_, -, -, rfl⟩ := unarchiveCity_ok hrun
      refine SourcesStay.of_map rfl ?_
      intro source
      unfold reviveWithCity
      split <;> exact ⟨rfl, rfl⟩
  | updateCity cityId data =>
      obtain ⟨_, _, -, -, rfl⟩ := updateCity_ok hrun
      exact SourcesStay.refl _

theorem normalizeEntry_source {entry : Entry} {position : Nat} {cities : Str → Option Nat}
    {row : ArticleRow} (h : normalizeEntry P source entry position cities = .ok (some row)) :
    row.sourceId = source.id := by
  obtain ⟨_, _, _, -, -, -, -, -, -, hsource, -⟩ := normalizeEntry_row h
  exact hsource

/-- The rows of a loop are of its source. -/
theorem collectRows_source {w : Weather} {cities : Str → Option Nat} {position : Nat}
    {entries : List Entry} {seen : List Str} {rows : List ArticleRow}
    (h : (collectRows P w source cities position entries seen).2 = .ok rows) :
    ∀ row ∈ rows, row.sourceId = source.id := by
  induction entries generalizing position seen rows with
  | nil =>
      cases h
      exact fun row hrow => absurd hrow List.not_mem_nil
  -- a skipped entry, a repeated one and an inserted one each end the same way
  | cons entry rest ih =>
      unfold collectRows at h
      split at h
      · cases h
      · cases h
      · exact ih h
      · next article _ hnormalized =>
          split at h
          · exact ih h
          · obtain ⟨rows', hrows', rfl⟩ := except_map_ok.mp h
            intro row hrow
            rcases List.mem_cons.mp hrow with rfl | hrow
            · exact normalizeEntry_source hnormalized
            · exact ih hrows' row hrow

/-- **What a transaction inserts is of its source.** -/
theorem persistAttempt_source {w : Weather} {attempt : FetchAttempt} {seen : List Str}
    {ingested : Ingested} (h : (persistAttempt P w db source attempt seen).2 = .ok ingested) :
    ∀ article ∈ ingested.articles, article.sourceId = source.id := by
  -- a fetch that failed, and a response without news, bring no article
  have hnone {article : Article} {articles : List Article} (hempty : articles = [])
      (hmem : article ∈ articles) : article.sourceId = source.id := by
    rw [hempty] at hmem
    cases hmem
  unfold persistAttempt at h
  cases hfetched : attempt.fetched with
  | error e =>
      rw [hfetched] at h
      cases h
      exact fun article hmem => hnone rfl hmem
  | ok result =>
      rw [hfetched] at h
      obtain ⟨parse, hparsed, h⟩ := except_bind_ok.mp h
      have hparse : (parseResult P w db.cities source result attempt.attemptedAt seen).2
          = .ok parse := hparsed
      rcases parseResult_cases P w db.cities source attempt.attemptedAt seen hfetched with
        ⟨-, -, ⟨⟨e, he⟩, -⟩ | ⟨ingested', hdone, hempty, -⟩⟩ | ⟨parsed, -, -, hrows⟩
      · rw [he] at hparse
        cases hparse
      · rw [hdone] at hparse
        cases hparse
        cases h
        exact fun article hmem => hnone hempty hmem
      · rw [hrows] at hparse
        obtain ⟨rows, hcollected, rfl⟩ := except_map_ok.mp hparse
        obtain ⟨-, -, -, -, harticles, -⟩ := recordInserted_ok (insertRows_ok h)
        intro article hmem
        rw [harticles] at hmem
        obtain ⟨row, hrow, rfl⟩ := List.mem_map.mp (mem_inserted _ hmem).1
        exact collectRows_source hcollected row hrow

/-- What a persist phase may do to the sources and under them. -/
structure Homed (db db' : Db) : Prop where
  keyed : db'.Keyed
  stay : SourcesStay db db'
  ids : db'.sources.map Source.id = db.sources.map Source.id
  homed : ∀ article ∈ db'.articles, article ∈ db.articles
    ∨ article.sourceId ∈ db.sources.map Source.id

theorem Homed.refl (hkeyed : db.Keyed) : Homed db db :=
  ⟨hkeyed, SourcesStay.refl db, rfl, fun _ hmem => Or.inl hmem⟩

theorem Homed.trans (h : Homed db db') (h' : Homed db' db'') : Homed db db'' where
  keyed := h'.keyed
  stay := h.stay.trans h'.stay
  ids := h'.ids.trans h.ids
  homed := by
    intro article hmem
    rcases h'.homed article hmem with hold | hnew
    · exact h.homed article hold
    · exact Or.inr (h.ids ▸ hnew)

/-- **The persist phase** keeps the sources, and inserts under them only. -/
theorem persistAttempts_homed {jobs : List (FetchAttempt × Weather)} {seen : List Str}
    (hkeyed : db.Keyed) : Homed db (persistAttempts P jobs db seen).2 := by
  induction jobs generalizing db seen with
  | nil => exact Homed.refl hkeyed
  | cons job rest ih =>
      cases hget : db.getSource job.1.sourceId with
      | none =>
          rw [persistAttempts_gone hget]
          exact ih hkeyed
      | some source =>
          have hself := Db.getSource_self hget
          cases htxn : commitTxn job.2 (persistAttempt P job.2 db source job.1 seen).2 with
          -- the failure is written on the row of the source, once the transaction is rolled
          -- back
          | error e =>
              rw [persistAttempts_rolledBack hget htxn]
              have hkeyed' : (db.putSource
                  (recordFetchFailure source (persistFailed e) job.1.attemptedAt).1).Keyed :=
                hkeyed.putSource hself rfl rfl
              refine Homed.trans ?_ (ih hkeyed')
              refine ⟨hkeyed', ?_, setRow_keys Source.id _ _, fun _ hmem => Or.inl hmem⟩
              refine SourcesStay.put hkeyed.source_nodup hself ?_ ?_ rfl <;> rfl
          | ok ingested =>
              rw [persistAttempts_committed hget htxn]
              have hpolled := persistAttempt_polled (commitTxn_ok htxn)
              have hkeyed' : (db.commitIngested ingested).Keyed :=
                (hkeyed.putSource hself hpolled.id hpolled.cityId).of_same_keys rfl rfl rfl rfl
              refine Homed.trans ?_ (ih hkeyed')
              refine ⟨hkeyed', ?_, setRow_keys Source.id _ _, ?_⟩
              · exact SourcesStay.put hkeyed.source_nodup hself hpolled.id hpolled.cityId rfl
              · intro article hmem
                rcases List.mem_append.mp hmem with hold | hnew
                · exact Or.inl hold
                · right
                  rw [persistAttempt_source (commitTxn_ok htxn) article hnew]
                  exact List.mem_map_of_mem (getRow_some Source.id hself).1

/-- What a call may do to the table of articles. -/
structure Brings (db db' : Db) : Prop where
  keyed : db'.Keyed
  stay : SourcesStay db db'
  ingests : Ingests db.articles db'.articles
  homed : ∀ article ∈ db'.articles, article ∈ db.articles
    ∨ article.sourceId ∈ db'.sources.map Source.id

theorem persistAttempts_brings {jobs : List (FetchAttempt × Weather)} {seen : List Str}
    (hkeyed : db.Keyed) : Brings db (persistAttempts P jobs db seen).2 := by
  have hhomed : Homed db (persistAttempts P jobs db seen).2 := persistAttempts_homed hkeyed
  refine ⟨hhomed.keyed, hhomed.stay, persistAttempts_ingests P jobs db seen, ?_⟩
  rw [hhomed.ids]
  exact hhomed.homed

/-- A call that touches no article. -/
theorem Brings.none (hkeyed : db'.Keyed) (hstay : SourcesStay db db')
    (harticles : db'.articles = db.articles) : Brings db db' where
  keyed := hkeyed
  stay := hstay
  ingests := harticles ▸ Ingests.refl db.articles
  homed := fun _ hmem => Or.inl (harticles ▸ hmem)

theorem fetchAndPersist_brings {fetch : FetchTarget → Time × Except Str FetchResult}
    {weather : FetchTarget → Weather} {targets : List FetchTarget} (hkeyed : db.Keyed) :
    Brings db (fetchAndPersist P fetch weather targets db).2 := by
  unfold fetchAndPersist
  split
  · exact Brings.none hkeyed (SourcesStay.refl db) rfl
  · exact persistAttempts_brings hkeyed

/-- **Ticks bring articles**, and the other calls none. -/
theorem healthStep_brings {action : HealthAction} {log : HealthLog} (hkeyed : db.Keyed)
    (hstep : healthStep P settings { db := db } action = some log) : Brings db log.db := by
  cases action with
  | tick now fetch weather =>
      obtain rfl := Option.some.inj hstep
      exact fetchAndPersist_brings hkeyed
  | refresh cityId fetch weather =>
      simp only [healthStep] at hstep
      split at hstep
      · next targets refreshed db' htargets hrefresh =>
          obtain rfl := Option.some.inj hstep
          unfold refreshCity at hrefresh
          rw [htargets] at hrefresh
          cases hrefresh
          exact fetchAndPersist_brings hkeyed
      · obtain rfl := Option.some.inj hstep
        exact Brings.none hkeyed (SourcesStay.refl db) rfl
  -- a check by hand writes its columns, and no article
  | check net sourceId now =>
      simp only [healthStep] at hstep
      split at hstep
      · next db' answer hcheck =>
          obtain rfl := Option.some.inj hstep
          obtain ⟨source, checked, hself, -, hid, hcity, -, rfl⟩ := checkSource_put hcheck
          exact Brings.none (hkeyed.putSource hself hid hcity)
            (SourcesStay.put hkeyed.source_nodup hself hid hcity rfl) rfl
      · obtain rfl := Option.some.inj hstep
        exact Brings.none hkeyed (SourcesStay.refl db) rfl
  | onboard call =>
      obtain ⟨db', hdb', rfl⟩ := Option.map_eq_some_iff.mp hstep
      refine onboardingStep_keeps (I := fun db' => Brings db db') hdb'
        (Brings.none hkeyed (SourcesStay.refl db) rfl) ?_
      intro hrun
      exact Brings.none (call.run_keyed hkeyed hrun) (call.run_stay hkeyed hrun)
        (OnboardingCall.run_articles hrun)

end Stay

/-! ## §3. Steps. -/

section Steps

variable {P : Platform} {settings : Settings} {validate : Str → Raises (List TitleClassification)}
  {w w' : FeedWorld} {event : PipelineEvent} {verdict : Option TitleClassification}
  {arrival article : Article}

/-- A row that has a verdict has been rated, and one without has not. -/
theorem Tells.rated (h : Tells verdict arrival article)
    (hinserted : ∃ now row, arrival = ArticleRow.insert now row) :
    article.emotionalSalience = none ↔ verdict = none := by
  have hlevel : article.emotionalSalience = article.labels.level .emotionalSalience := rfl
  obtain ⟨now, row, rfl⟩ := hinserted
  rw [hlevel, h.labels]
  cases verdict with
  | none => exact iff_of_true rfl rfl
  | some result => exact iff_of_false nofun nofun

/-- The verdicts of a pass, by story. -/
theorem get_verdictsOf {assigned : List (Str × TitleClassification)} (ids : List Str) (id : Str) :
    Dict.get (ids.filterMap fun id => (Dict.get assigned id).map (id, ·)) id
      = if id ∈ ids then Dict.get assigned id else none := by
  -- on the ids of the batch; a story may be assigned a result and not be among them
  induction ids with
  | nil => rfl
  | cons first ids ih =>
      have hcons (pair : Str × TitleClassification) (rest : List (Str × TitleClassification)) :
          Dict.get (pair :: rest) id = if pair.1 = id then some pair.2 else Dict.get rest id := by
        unfold Dict.get getRow
        rw [List.find?_cons]
        by_cases hid : pair.1 = id <;> simp [hid]
      cases hget : Dict.get assigned first with
      | none =>
          rw [List.filterMap_cons_none (by rw [hget]; rfl), ih]
          by_cases hid : id = first
          · subst hid
            simp [hget]
          · simp [hid]
      | some result =>
          rw [List.filterMap_cons_some (by rw [hget]; rfl), hcons, ih]
          by_cases hid : id = first
          · subst hid
            simp [hget]
          · have hne : ¬ first = id := fun h => hid h.symm
            simp [hid, hne]

/-- The stories of the verdicts of a pass are of its batch. -/
theorem verdictsOf_ids {assigned : List (Str × TitleClassification)} (ids : List Str) :
    ((ids.filterMap fun id => (Dict.get assigned id).map (id, ·)).map (·.1)).Sublist ids := by
  induction ids with
  | nil => exact List.Sublist.refl []
  | cons id ids ih =>
      cases hget : Dict.get assigned id with
      -- an id without a verdict leaves no entry
      | none =>
          rw [List.filterMap_cons_none (by rw [hget]; rfl)]
          exact ih.cons id
      | some result =>
          rw [List.filterMap_cons_some (by rw [hget]; rfl)]
          exact ih.cons_cons id

theorem get_append (xs ys : List (Str × TitleClassification)) (id : Str) :
    Dict.get (xs ++ ys) id = (Dict.get xs id).or (Dict.get ys id) := by
  unfold Dict.get getRow
  rw [List.find?_append]
  cases List.find? (fun pair => decide (pair.1 = id)) xs <;> rfl

theorem Tells.id (h : Tells verdict arrival article) : article.id = arrival.id :=
  congrArg ArticleRow.id h.ingested

theorem FeedWorld.Inv.ids (h : w.Inv settings) :
    w.arrived.map (·.id) = w.loop.db.articles.map (·.id) := by
  have htold := h.told
  generalize w.loop.db.articles = articles at htold ⊢
  generalize w.arrived = arrived at htold ⊢
  induction htold with
  | nil => rfl
  | cons htells _ ih =>
      rw [List.map_cons, List.map_cons, ih]
      exact congrArg (· :: _) htells.id.symm

/-- Every row has come in. -/
theorem FeedWorld.Inv.cameIn (h : w.Inv settings) (hmem : article ∈ w.loop.db.articles) :
    ∃ arrival ∈ w.arrived, Tells (w.verdict arrival.id) arrival article := exists_left h.told hmem

/-- What has come in is there. -/
theorem FeedWorld.Inv.stored (h : w.Inv settings) (hmem : arrival ∈ w.arrived) :
    ∃ article ∈ w.loop.db.articles, Tells (w.verdict arrival.id) arrival article :=
  exists_left h.told.flip hmem

/-- A story without a row has no verdict. -/
theorem FeedWorld.Inv.unjudged (h : w.Inv settings) {id : Str}
    (hid : id ∉ w.loop.db.articles.map (·.id)) : w.verdict id = none := by
  cases hverdict : w.verdict id with
  | none => rfl
  | some result =>
      have hmem := (Dict.get_eq_some_iff h.once).mp hverdict
      exact absurd (h.known id (List.mem_map_of_mem hmem)) hid

/-- **Whatever a call brings** has come in, and is not judged. -/
theorem FeedWorld.Inv.brings {db : Db} (h : w.Inv settings) (hbrings : Brings w.loop.db db) :
    FeedWorld.Inv settings
      { w with
        loop := { w.loop with db := db }
        arrived := w.arrived ++ db.articles.drop w.loop.db.articles.length } := by
  obtain ⟨new, harticles, hnew, hkeys⟩ := hbrings.ingests
  have hdrop : db.articles.drop w.loop.db.articles.length = new := by
    rw [harticles, List.drop_left]
  refine ⟨h.loop.ingest hbrings.ingests, hbrings.keyed, h.once, ?_, ?_, ?_, ?_⟩
  · intro id hid
    show id ∈ db.articles.map (·.id)
    rw [harticles, List.map_append]
    exact List.mem_append_left _ (h.known id hid)
  · intro arrival hmem
    rcases List.mem_append.mp hmem with hold | hlater
    · exact h.inserted arrival hold
    · exact (hnew arrival (hdrop ▸ hlater)).1
  · show List.Forall₂ _ (w.arrived ++ _) db.articles
    rw [hdrop, harticles]
    refine List.rel_append h.told (List.forall₂_same.mpr ?_)
    intro article hmem
    refine ⟨rfl, rfl, ?_⟩
    show article.labels = (w.verdict article.id).elim _ _
    -- a fresh row has no result yet, whatever the model is asked about later
    rw [h.unjudged (hnew article hmem).2]
    rfl
  · intro article hmem
    -- an old article keeps its source: sources are archived and not deleted
    rcases hbrings.homed article hmem with hold | hhome
    · obtain ⟨source, hsource, hid⟩ := List.mem_map.mp (h.homed article hold)
      obtain ⟨source', hsource', hid', -⟩ := hbrings.stay source hsource
      exact List.mem_map.mpr ⟨source', hsource', hid'.trans hid⟩
    · exact hhome

/-- A pass touches the articles only. -/
theorem persistCategories_frame (assigned : List (Str × TitleClassification)) (db : Db)
    (ids : List Str) :
    (persistCategories db assigned ids).cities = db.cities
      ∧ (persistCategories db assigned ids).nextCity = db.nextCity
      ∧ (persistCategories db assigned ids).sources = db.sources
      ∧ (persistCategories db assigned ids).nextSource = db.nextSource := by
  unfold persistCategories
  induction ids generalizing db with
  | nil => exact ⟨rfl, rfl, rfl, rfl⟩
  | cons id ids ih =>
      obtain ⟨hcities, hnextCity, hsources, hnextSource⟩ := ih (persistOne assigned db id)
      rw [List.foldl_cons, hcities, hnextCity, hsources, hnextSource]
      unfold persistOne
      split <;> exact ⟨rfl, rfl, rfl, rfl⟩

/-- **A pass judges stories that were not judged.** -/
theorem FeedWorld.Inv.reply (h : w.Inv settings) {client : Nat → Str → ClientReply}
    {loop : LoopWorld}
    (hstep : loopStep P settings validate w.loop (.pass (.reply client)) = some loop) :
    FeedWorld.Inv settings
      { loop := loop
        arrived := w.arrived ++ loop.db.articles.drop w.loop.db.articles.length
        verdicts := w.verdicts
          ++ verdictsOf settings validate w.loop (.pass (.reply client)) } := by
  have hloop := loopStep_inv h.loop hstep
  obtain rfl := loop_reply_cases hstep
  generalize hassigned : assignedResults settings validate client w.loop.pending = assigned
  generalize hids : w.loop.pending.map (·.articleId) = ids
  have harticles : (finishPass settings validate client w.loop.db w.loop.pending).articles
      = w.loop.db.articles.map (relabel assigned ids) := by
    rw [finishPass_articles h.loop.toInv, hassigned, hids]
  have hverdicts : verdictsOf settings validate w.loop (.pass (.reply client))
      = ids.filterMap fun id => (Dict.get assigned id).map (id, ·) := by
    show ((w.loop.pending.map (·.articleId)).filterMap fun id =>
      (Dict.get (assignedResults settings validate client w.loop.pending) id).map (id, ·)) = _
    rw [hassigned, hids]
  -- what is sent has not been rated, so it has no verdict yet
  have hunjudged : ∀ id ∈ ids, w.verdict id = none := by
    intro id hid
    rw [← hids] at hid
    obtain ⟨article, hmem, rfl⟩ := List.mem_map.mp (h.loop.stored id hid)
    obtain ⟨arrival, harrival, htells⟩ := h.cameIn hmem
    show w.verdict article.id = none
    rw [htells.id]
    exact (htells.rated (h.inserted arrival harrival)).mp (h.loop.unrated article hmem hid).1
  have hverdict (id : Str) : (FeedWorld.verdict
      { loop := { db := finishPass settings validate client w.loop.db w.loop.pending
                  finished := w.loop.finished ++ [w.loop.offered] }
        arrived := w.arrived
        verdicts := w.verdicts ++ verdictsOf settings validate w.loop (.pass (.reply client)) } id)
      = (w.verdict id).or (if id ∈ ids then Dict.get assigned id else none) := by
    unfold FeedWorld.verdict
    rw [hverdicts, get_append, get_verdictsOf]
  obtain ⟨hcities, hnextCity, hsources, hnextSource⟩ := persistCategories_frame
    (assignedResults settings validate client w.loop.pending) w.loop.db
    (w.loop.pending.map (·.articleId))
  refine ⟨hloop, ?_, ?_, ?_, ?_, ?_, ?_⟩
  · refine h.keyed.of_same_keys ?_ hnextCity ?_ hnextSource
    · exact congrArg (List.map City.id) hcities
    · exact congrArg (List.map fun s => (s.id, s.cityId)) hsources
  · show ((w.verdicts ++ _).map (·.1)).Nodup
    rw [hverdicts, List.map_append]
    refine List.nodup_append'.mpr ⟨h.once, ?_, ?_⟩
    · exact (hids ▸ h.loop.toInv.batch).sublist (verdictsOf_ids ids)
    · intro id hold hnew
      obtain ⟨⟨_, result⟩, hmem, rfl⟩ := List.mem_map.mp hold
      have hjudged := (Dict.get_eq_some_iff h.once).mpr hmem
      have hnone := hunjudged _ ((verdictsOf_ids ids).subset hnew)
      rw [FeedWorld.verdict, hjudged] at hnone
      cases hnone
  · intro id hid
    show id ∈ (finishPass settings validate client w.loop.db w.loop.pending).articles.map (·.id)
    rw [harticles, map_relabel_ids]
    have hcases : id ∈ w.verdicts.map (·.1) ++ (verdictsOf settings validate w.loop
        (.pass (.reply client))).map (·.1) := by
      rw [← List.map_append]
      exact hid
    rcases List.mem_append.mp hcases with hold | hnew
    · exact h.known id hold
    · rw [hverdicts] at hnew
      exact h.loop.stored id (hids.symm ▸ (verdictsOf_ids ids).subset hnew)
  · intro arrival hmem
    rcases List.mem_append.mp hmem with hold | hnew
    · exact h.inserted arrival hold
    · rw [show (finishPass settings validate client w.loop.db w.loop.pending).articles
        = _ from harticles, List.drop_of_length_le (by rw [List.length_map])] at hnew
      cases hnew
  · show List.Forall₂ _ (w.arrived ++ (finishPass settings validate client w.loop.db
      w.loop.pending).articles.drop _) (finishPass settings validate client w.loop.db
      w.loop.pending).articles
    rw [harticles, List.drop_of_length_le (by rw [List.length_map]), List.append_nil,
      List.forall₂_map_right_iff]
    refine h.told.imp ?_
    intro arrival article htells
    have hid : article.id = arrival.id := htells.id
    have hnow := hverdict arrival.id
    show Tells (FeedWorld.verdict
      { loop := { db := finishPass settings validate client w.loop.db w.loop.pending
                  finished := w.loop.finished ++ [w.loop.offered] }
        arrived := w.arrived
        verdicts := w.verdicts ++ verdictsOf settings validate w.loop (.pass (.reply client)) }
      arrival.id) arrival _
    rw [hnow]
    by_cases hsent : arrival.id ∈ ids
    · have hlabelled := attempted_labelled article (Dict.get assigned article.id)
      rw [relabel_of_mem (hid ▸ hsent), hunjudged _ hsent, if_pos hsent, Option.none_or]
      refine ⟨hlabelled.ingested.trans htells.ingested, hlabelled.arrived.trans htells.arrived, ?_⟩
      rw [hlabelled.labels, htells.labels, hunjudged _ hsent, hid]
      rfl
    · rw [relabel_of_not_mem (fun h => hsent (hid ▸ h)), if_neg hsent, Option.or_none]
      exact htells
  · intro article hmem
    show article.sourceId ∈ (finishPass settings validate client w.loop.db
      w.loop.pending).sources.map Source.id
    rw [show (finishPass settings validate client w.loop.db w.loop.pending).sources
      = w.loop.db.sources from hsources]
    have hmap : article ∈ w.loop.db.articles.map (relabel assigned ids) := harticles ▸ hmem
    obtain ⟨before, hbefore, rfl⟩ := List.mem_map.mp hmap
    have hsame : (relabel assigned ids before).sourceId = before.sourceId := by
      unfold relabel
      split
      · exact congrArg ArticleRow.sourceId (attempted_labelled before _).ingested
      · rfl
    rw [hsame]
    exact h.homed before hbefore

/-- A step that brings or judges nothing. -/
theorem FeedWorld.Inv.idle {pending : List Candidate} {offered : List Str}
    {finished : List (List Str)} (h : w.Inv settings)
    (hloop : LoopWorld.Inv settings
      { db := w.loop.db, pending := pending, offered := offered, finished := finished }) :
    FeedWorld.Inv settings
      { w with loop := { db := w.loop.db, pending := pending, offered := offered
                         finished := finished } } :=
  ⟨hloop, h.keyed, h.once, h.known, h.inserted, h.told, h.homed⟩

/-- **Every step keeps the table true to the history.** -/
theorem FeedWorld.step_inv (h : w.Inv settings)
    (hstep : w.step P settings validate event = some w') : w'.Inv settings := by
  cases event with
  | call action =>
      obtain ⟨log, hlog, rfl⟩ := Option.map_eq_some_iff.mp hstep
      exact h.brings (healthStep_brings h.keyed hlog)
  | loop event =>
      obtain ⟨loop, hloop, rfl⟩ := Option.map_eq_some_iff.mp hstep
      cases event with
      | pass event =>
          cases event with
          | ingest jobs seen =>
              obtain rfl := Option.some.inj hloop
              have hbrings : Brings w.loop.db (persistAttempts P jobs w.loop.db seen).2 :=
                persistAttempts_brings h.keyed
              have hinv := h.brings hbrings
              simp only [verdictsOf, List.append_nil]
              exact hinv
          -- a query changes nothing that is stored
          | load now rows =>
              have hinv := loopStep_inv h.loop hloop
              obtain ⟨-, rfl⟩ := loop_load_cases hloop
              simp only [verdictsOf, List.append_nil, List.drop_length]
              exact h.idle hinv
          | reply client => exact h.reply hloop
      | crash =>
          have hinv := loopStep_inv h.loop hloop
          obtain rfl := loop_crash_cases hloop
          simp only [verdictsOf, List.append_nil, List.drop_length]
          exact h.idle hinv

theorem FeedWorld.start_inv : FeedWorld.start.Inv settings where
  loop := idle_inv List.nodup_nil
  keyed := Db.empty_keyed
  once := List.nodup_nil
  known := fun _ h => absurd h List.not_mem_nil
  inserted := fun _ h => absurd h List.not_mem_nil
  told := List.Forall₂.nil
  homed := fun _ h => absurd h List.not_mem_nil

end Steps

/-! ## §4. What the feed lists. -/

theorem Category.value_injective : Function.Injective Category.value := by
  have hfind (category : Category) :
      [Category.crime, .accident, .civic, .transport, .politics, .business, .education, .health,
        .sport, .weather, .environment, .agriculture, .culture, .religion, .technology,
        .other].find? (fun known => known.value == category.value) = some category := by
    cases category <;> decide +kernel
  intro a b h
  exact Option.some.inj ((hfind a).symm.trans (h ▸ hfind b))

theorem ContentType.ofValue_value (kind : ContentType) :
    ContentType.ofValue kind.value = some kind := by
  cases kind <;> decide +kernel

section Listing

variable {P : Platform} {settings : Settings} {w : FeedWorld} {query : StoriesQuery} {now : Time}
  {verdict : Option TitleClassification} {arrival article : Article} {source : Source}

theorem selects_iff {row : StoryRow} :
    query.selects row ↔
      (query.category.getD [] = []
          ∨ ∃ c ∈ query.category.getD [], row.article.category = some c.value)
        ∧ ∀ cityId ∈ query.cityId, (row.source.cityId : Int) = cityId := by
  unfold StoriesQuery.selects
  rw [Bool.and_eq_true]
  refine and_congr ?_ ?_
  -- `?category=` with nothing behind it is an empty list, and filters nothing
  · rcases query.category with _ | _ | ⟨first, rest⟩
    · simp
    · simp
    · rw [Option.getD_some, or_iff_right (List.cons_ne_nil first rest), Option.any_eq_true]
      simp only [decide_eq_true_eq, List.mem_map]
      constructor
      · intro h
        obtain ⟨_, hcategory, c, hmem, rfl⟩ := h
        exact ⟨c, hmem, hcategory⟩
      · intro h
        obtain ⟨c, hmem, hcategory⟩ := h
        exact ⟨c.value, hcategory, c, hmem, rfl⟩
  · cases query.cityId with
    | none => simp
    | some cityId => simp

/-- **A row, by its verdict.** -/
theorem Tells.passes (h : Tells verdict arrival article)
    (hinserted : ∃ now row, arrival = ArticleRow.insert now row) (city : City) :
    (query.selects { article := article, source := source, city := city }
        ∧ ¬ hidden settings article source)
      ↔ (∀ cityId ∈ query.cityId, (source.cityId : Int) = cityId)
        ∧ Passes settings query arrival source verdict := by
  have hcategory : article.category = article.labels.category := rfl
  have hform : article.contentType = article.labels.contentType := rfl
  have hrelevant : article.isCityRelevant = article.labels.isCityRelevant := rfl
  have hconfidence : article.relevanceConfidence = article.labels.relevanceConfidence := rfl
  have hlocal : deriveIsLocal article source = deriveIsLocal arrival source := by
    unfold deriveIsLocal
    rw [show article.cityId = arrival.cityId from congrArg ArticleRow.cityId h.ingested]
  obtain ⟨fetched, row, rfl⟩ := hinserted
  rw [selects_iff]
  unfold hidden undiscoverable
  simp only [hcategory, hform, hrelevant, hconfidence, h.labels, hlocal]
  -- what the feed asks of an unjudged row and of a judged one are different columns
  cases verdict with
  | none =>
      simp [Passes, ArticleRow.insert, Article.labels]
      tauto
  | some result =>
      have hin : (∃ c ∈ query.category.getD [], result.category.value = c.value)
          ↔ result.category ∈ query.category.getD [] := by
        constructor
        · intro hcategory
          obtain ⟨c, hmem, hvalue⟩ := hcategory
          rwa [Category.value_injective hvalue]
        · exact fun hmem => ⟨result.category, hmem, rfl⟩
      cases hcity : result.isCityRelevant with
      | true =>
          simp [Passes, TitleClassification.labels, ContentType.ofValue_value, hin, hcity]
          tauto
      | false =>
          simp [Passes, TitleClassification.labels, ContentType.ofValue_value, hin, hcity]
          tauto

/-- **What some page shows is what is admitted.** -/
theorem listed_iff_admitted {db : Db} {id : Str} (hids : (db.articles.map (·.id)).Nodup)
    (hlimit : 1 ≤ query.effectiveLimit settings) :
    Listed P settings db query now id
      ↔ ∃ row, Admitted settings db query now row ∧ row.article.id = id := by
  -- the pages of one moment, whatever order the rows came in
  have hpage (offset : Nat) {rows : List StoryRow}
      (hrows : rows.Perm (windowRows settings db query now)) :
      (listStories P settings db (query.at offset) rows).map (·.id)
        = page (query.effectiveLimit settings).toNat offset
            ((inOrder settings query.sort (shownRows settings db query now)).map
              (·.article.id)) := by
    have hrows' : rows.Perm (windowRows settings db (query.at offset) now) := hrows
    have hlimit' : 1 ≤ (query.at offset).effectiveLimit settings := hlimit
    rw [listStories_page P hids hlimit' hrows', map_page, List.map_map]
    rfl
  have hshown : id ∈ (inOrder settings query.sort (shownRows settings db query now)).map
      (·.article.id) ↔ ∃ row, Admitted settings db query now row ∧ row.article.id = id := by
    rw [List.mem_map]
    refine exists_congr fun row => and_congr_left fun _ => ?_
    rw [(inOrder_perm settings query.sort _).mem_iff]
    exact mem_shownRows
  have hsize : 0 < (query.effectiveLimit settings).toNat := by omega
  rw [← hshown, ← exists_mem_page hsize]
  constructor
  · intro h
    obtain ⟨offset, rows, hrows, hmem⟩ := h
    exact ⟨offset, hpage offset hrows ▸ hmem⟩
  · intro h
    obtain ⟨offset, hmem⟩ := h
    refine ⟨offset, windowRows settings db query now, List.Perm.refl _, ?_⟩
    rw [hpage offset (List.Perm.refl _)]
    exact hmem

/-- A row of the table joins with its source, and that with its city. -/
theorem joinSource_some {db : Db} (hkeyed : db.Keyed)
    (hhome : article.sourceId ∈ db.sources.map Source.id) :
    ∃ source city, db.getSource article.sourceId = some source
      ∧ joinSource db article = some { article := article, source := source, city := city } := by
  obtain ⟨source, hsource, hid⟩ := List.mem_map.mp hhome
  have hget : db.getSource article.sourceId = some source :=
    hid ▸ getRow_of_mem Source.id hkeyed.source_nodup hsource
  obtain ⟨city, hcity, hcityId⟩ := hkeyed.source_city source hsource
  have hgetCity : db.getCity source.cityId = some city :=
    hcityId ▸ getRow_of_mem City.id hkeyed.city_nodup hcity
  exact ⟨source, city, hget, joinSource_eq_some.mpr ⟨rfl, hget, hgetCity⟩⟩

theorem Tells.occurredAt (h : Tells verdict arrival article) :
    article.occurredAt = arrival.occurredAt := by
  unfold Article.occurredAt
  rw [h.arrived, show article.publishedAt = arrival.publishedAt from
    congrArg ArticleRow.publishedAt h.ingested]

/-- The source of what has come in. -/
theorem FeedWorld.Inv.home (h : w.Inv settings) (hmem : arrival ∈ w.arrived) :
    ∃ source, w.loop.db.getSource arrival.sourceId = some source := by
  obtain ⟨article, harticle, htells⟩ := h.stored hmem
  obtain ⟨source, _, hget, -⟩ := joinSource_some h.keyed (h.homed article harticle)
  exact ⟨source, congrArg ArticleRow.sourceId htells.ingested ▸ hget⟩

/-- **The feed of a table that is the history.** -/
theorem FeedWorld.Inv.listed_iff {id : Str} (h : w.Inv settings)
    (hlimit : 1 ≤ query.effectiveLimit settings) :
    Listed P settings w.loop.db query now id
      ↔ ∃ arrival source, arrival.id = id ∧ Deserves settings w query now arrival source := by
  rw [listed_iff_admitted h.loop.keys hlimit]
  constructor
  · intro hrow
    obtain ⟨row, hadmitted, hid⟩ := hrow
    obtain ⟨arrival, harrival, htells⟩ := h.cameIn hadmitted.stored
    have hinserted := h.inserted arrival harrival
    obtain ⟨hcovered, hpasses⟩ := (htells.passes hinserted row.city).mp
      ⟨hadmitted.selected, hadmitted.shown⟩
    obtain ⟨-, hhome, -⟩ := joinSource_eq_some.mp hadmitted.joined
    rw [congrArg ArticleRow.sourceId htells.ingested] at hhome
    exact ⟨arrival, row.source, htells.id.symm.trans hid, harrival, hhome,
      htells.occurredAt ▸ hadmitted.recent, hcovered, hpasses⟩
  · intro harrival
    obtain ⟨arrival, source, hid, hdeserves⟩ := harrival
    obtain ⟨article, harticle, htells⟩ := h.stored hdeserves.cameIn
    -- the inner joins lose no row: its source is there, and the city of that
    obtain ⟨source', city, hget, hjoin⟩ := joinSource_some h.keyed (h.homed article harticle)
    have hhome := hdeserves.home
    rw [← congrArg ArticleRow.sourceId htells.ingested, hget] at hhome
    obtain rfl := Option.some.inj hhome
    obtain ⟨hselected, hshown⟩ := (htells.passes (h.inserted arrival hdeserves.cameIn) city).mpr
      ⟨hdeserves.covered, hdeserves.passes⟩
    exact ⟨_, ⟨harticle, hjoin, htells.occurredAt ▸ hdeserves.recent, hselected, hshown⟩,
      htells.id.trans hid⟩


theorem FeedWorld.Inv.listed_arrival (h : w.Inv settings)
    (hlimit : 1 ≤ query.effectiveLimit settings) (hmem : arrival ∈ w.arrived) :
    Listed P settings w.loop.db query now arrival.id
      ↔ ∃ source, Deserves settings w query now arrival source := by
  rw [h.listed_iff hlimit]
  -- an id came in once, so the arrival listed is this one
  constructor
  · intro hother
    obtain ⟨other, source, hid, hdeserves⟩ := hother
    obtain rfl := List.inj_on_of_nodup_map (h.ids ▸ h.loop.keys) hdeserves.cameIn hmem hid
    exact ⟨source, hdeserves⟩
  · intro hsource
    obtain ⟨source, hdeserves⟩ := hsource
    exact ⟨arrival, source, rfl, hdeserves⟩

end Listing

/-! ## §5. What a verdict settles. -/

/-- The history only grows. -/
structure Grown (w w' : FeedWorld) : Prop where
  arrived : w.arrived <+: w'.arrived
  verdicts : w.verdicts <+: w'.verdicts
  stay : SourcesStay w.loop.db w'.loop.db

section Settled

variable {P : Platform} {settings : Settings} {validate : Str → Raises (List TitleClassification)}
  {w w' : FeedWorld} {event : PipelineEvent} {events : List PipelineEvent}

theorem FeedWorld.step_grown (h : w.Inv settings)
    (hstep : w.step P settings validate event = some w') : Grown w w' := by
  cases event with
  | call action =>
      obtain ⟨log, hlog, rfl⟩ := Option.map_eq_some_iff.mp hstep
      exact ⟨List.prefix_append _ _, List.prefix_refl _, (healthStep_brings h.keyed hlog).stay⟩
  | loop event =>
      obtain ⟨loop, hloop, rfl⟩ := Option.map_eq_some_iff.mp hstep
      refine ⟨List.prefix_append _ _, List.prefix_append _ _, ?_⟩
      cases event with
      | pass event =>
          cases event with
          | ingest jobs seen =>
              obtain rfl := Option.some.inj hloop
              exact (persistAttempts_homed h.keyed).stay
          | load now rows =>
              obtain ⟨-, rfl⟩ := loop_load_cases hloop
              exact SourcesStay.refl _
          -- a verdict is added, and no source is touched
          | reply client =>
              obtain rfl := loop_reply_cases hloop
              obtain ⟨-, -, hsources, -⟩ := persistCategories_frame
                (assignedResults settings validate client w.loop.pending) w.loop.db
                (w.loop.pending.map (·.articleId))
              exact SourcesStay.of_sublist (hsources ▸ List.Sublist.refl _)
      | crash =>
          obtain rfl := loop_crash_cases hloop
          exact SourcesStay.refl _

theorem FeedWorld.run_grown (h : w.Inv settings)
    (hrun : Run (FeedWorld.step P settings validate) w events w') :
    w'.Inv settings ∧ Grown w w' := by
  refine hrun.invariant (I := fun w' => w'.Inv settings ∧ Grown w w') ?_
    ⟨h, List.prefix_refl _, List.prefix_refl _, SourcesStay.refl _⟩
  intro between event after hbetween hstep
  obtain ⟨hinv, hgrown⟩ := hbetween
  have hmore := step_grown hinv hstep
  exact ⟨step_inv hinv hstep, hgrown.arrived.trans hmore.arrived,
    hgrown.verdicts.trans hmore.verdicts, hgrown.stay.trans hmore.stay⟩

/-- A verdict stays. -/
theorem Grown.verdict (h : Grown w w') {id : Str} {result : TitleClassification}
    (hjudged : w.verdict id = some result) : w'.verdict id = some result := by
  obtain ⟨more, hmore⟩ := h.verdicts
  unfold FeedWorld.verdict at hjudged ⊢
  rw [← hmore, get_append, hjudged]
  rfl

/-- The source of a story stays, and in its city. -/
theorem Grown.source (h : Grown w w') (hkeyed' : w'.loop.db.Keyed) {sourceId : Nat}
    {source : Source} (hget : w.loop.db.getSource sourceId = some source) :
    ∃ source', w'.loop.db.getSource sourceId = some source' ∧ source'.cityId = source.cityId := by
  obtain ⟨hmem, hid⟩ := getRow_some Source.id hget
  obtain ⟨source', hmem', hid', hcity⟩ := h.stay source hmem
  refine ⟨source', ?_, hcity⟩
  rw [← hid, ← hid']
  exact getRow_of_mem Source.id hkeyed'.source_nodup hmem'

/-- **A story that has been judged is in the feed of later days just if it is in
today's and still in the window.** -/
theorem Grown.deserves_iff (h : Grown w w') (hinv : w.Inv settings) (hinv' : w'.Inv settings)
    {query : StoriesQuery} {now later : Time} (hlater : now ≤ later) {arrival : Article}
    (hjudged : (w.verdict arrival.id).isSome) :
    (∃ source, Deserves settings w' query later arrival source)
      ↔ (∃ source, Deserves settings w query now arrival source)
        ∧ windowStart settings later ≤ arrival.occurredAt := by
  obtain ⟨result, hresult⟩ := Option.isSome_iff_exists.mp hjudged
  have hresult' := h.verdict hresult
  have hopens : windowStart settings now ≤ windowStart settings later :=
    sub_le_sub_right hlater _
  constructor
  · intro hdeserves
    obtain ⟨source', hdeserves⟩ := hdeserves
    -- what was judged had come in, and nothing comes in twice
    have hknown : arrival.id ∈ w.arrived.map (·.id) := by
      rw [hinv.ids]
      exact hinv.known _ (List.mem_map_of_mem ((Dict.get_eq_some_iff hinv.once).mp hresult))
    obtain ⟨before, hbefore, hid⟩ := List.mem_map.mp hknown
    obtain rfl := List.inj_on_of_nodup_map (hinv'.ids ▸ hinv'.loop.keys)
      (h.arrived.subset hbefore) hdeserves.cameIn hid
    obtain ⟨source, hget⟩ := hinv.home hbefore
    obtain ⟨_, hget', hcity⟩ := h.source hinv'.keyed hget
    obtain rfl := Option.some.inj (hget'.symm.trans hdeserves.home)
    have hpasses := hdeserves.passes
    rw [hresult'] at hpasses
    refine ⟨⟨source, hbefore, hget, hopens.trans hdeserves.recent, ?_, ?_⟩, hdeserves.recent⟩
    · rw [← hcity]
      exact hdeserves.covered
    · rw [hresult]
      exact hpasses
  · intro hboth
    obtain ⟨⟨source, hdeserves⟩, hopen⟩ := hboth
    obtain ⟨source', hget', hcity⟩ := h.source hinv'.keyed hdeserves.home
    have hpasses := hdeserves.passes
    rw [hresult] at hpasses
    refine ⟨source', h.arrived.subset hdeserves.cameIn, hget', hopen, ?_, ?_⟩
    · rw [hcity]
      exact hdeserves.covered
    · rw [hresult']
      exact hpasses

end Settled

/-! ## §6. The property. -/

/-- **THE FEED IS WHAT CAME IN AND WHAT WAS JUDGED**: after every run of ticks,
refreshes, checks, city and source calls and passes of the classifier, the pages
of a query show the stories that the history puts there.  No story comes in twice
or is judged twice; and one that has been judged is in the feed, later, just if it
was in it and has not left the window, whatever else has happened. -/
theorem feed_is_history (P : Platform) {settings : Settings}
    (validate : Str → Raises (List TitleClassification))
    (hdefault : 1 ≤ settings.storyDefaultLimit) (hmax : 1 ≤ settings.storyMaxLimit)
    {events : List PipelineEvent} {w : FeedWorld}
    (hrun : Run (FeedWorld.step P settings validate) FeedWorld.start events w) :
    (w.arrived.map (·.id)).Nodup
      ∧ (w.verdicts.map (·.1)).Nodup
      ∧ (∀ query now id, Listed P settings w.loop.db query now id
          ↔ ∃ arrival source, arrival.id = id ∧ Deserves settings w query now arrival source)
      ∧ ∀ more w', Run (FeedWorld.step P settings validate) w more w' →
          ∀ arrival ∈ w.arrived, (w.verdict arrival.id).isSome →
            ∀ query now later, now ≤ later →
              (Listed P settings w'.loop.db query later arrival.id
                ↔ Listed P settings w.loop.db query now arrival.id
                  ∧ windowStart settings later ≤ arrival.occurredAt) := by
  -- the bounds are on the settings: a request is clamped to them
  have hlimit (query : StoriesQuery) : 1 ≤ query.effectiveLimit settings := by
    unfold StoriesQuery.effectiveLimit
    cases hasked : query.limit with
    | none => exact le_min hdefault hmax
    | some limit => exact le_min (query.limit_pos limit hasked) hmax
  have hinv : w.Inv settings :=
    hrun.invariant (fun _ _ _ hinv hstep => FeedWorld.step_inv hinv hstep) FeedWorld.start_inv
  refine ⟨hinv.ids ▸ hinv.loop.keys, hinv.once, ?_, ?_⟩
  · intro query now id
    exact hinv.listed_iff (hlimit query)
  · intro more w' hmore arrival harrival hjudged query now later hlater
    obtain ⟨hinv', hgrown⟩ := FeedWorld.run_grown hinv hmore
    -- both sides are read off the history, which only grew
    rw [hinv.listed_arrival (hlimit query) harrival,
      hinv'.listed_arrival (hlimit query) (hgrown.arrived.subset harrival)]
    exact hgrown.deserves_iff hinv hinv' hlater hjudged

/-- A city, its feed as it is corrected, and a tick that finds a story. -/
def fetchedOnce (data : SourceUpdate) : List PipelineEvent :=
  [.call (.onboard (.createCity pune)), .call (.onboard (.updateSource 1 data)),
    .call (.tick (seconds 60) (fun _ => (seconds 61, (fetchedAt 1).fetched)) (fun _ => calm))]

/-- A pass over what is stored, which finds an advertisement. -/
def judgedAfter (db : Db) : List PipelineEvent :=
  [.loop (.pass (.load (seconds 120) (unclassifiedRows defaultSettings db (seconds 120)))),
    .loop (.pass (.reply emptyText))]

def promotionalFirst (_ : Str) : Raises (List TitleClassification) :=
  .ok [{ civicResult 0 with contentType := .promotional }]

def pageIds (query : StoriesQuery) (db : Db) : List Str :=
  (listStories oneStory defaultSettings db query
    (windowRows defaultSettings db query (seconds 120))).map (·.id)

/-- The feed shows the story of a local outlet until it is judged. -/
theorem feed_is_history_judged :
    ∃ w w', Run (FeedWorld.step oneStory defaultSettings promotionalFirst) FeedWorld.start
        (fetchedOnce { isLocalOutlet := some (some true) }) w
      ∧ Run (FeedWorld.step oneStory defaultSettings promotionalFirst) w
        (judgedAfter w.loop.db) w'
      ∧ (pageIds {} w.loop.db).length = 1 ∧ w'.verdicts.length = 1 ∧ pageIds {} w'.loop.db = []
      ∧ ∀ query now id, Listed oneStory defaultSettings w'.loop.db query now id
          ↔ ∃ arrival source, arrival.id = id
            ∧ Deserves defaultSettings w' query now arrival source := by
  -- evaluated once: the story is listed, judged as an advert, and listed no more
  have hok : ∃ w ∈ exec (FeedWorld.step oneStory defaultSettings promotionalFirst)
        FeedWorld.start (fetchedOnce { isLocalOutlet := some (some true) }),
      ∃ w' ∈ exec (FeedWorld.step oneStory defaultSettings promotionalFirst) w
          (judgedAfter w.loop.db),
        (pageIds {} w.loop.db).length = 1 ∧ w'.verdicts.length = 1
          ∧ pageIds {} w'.loop.db = [] := by
    decide +kernel
  obtain ⟨w, hexec, w', hexec', hpages⟩ := hok
  have hrun := run_iff_exec.mpr hexec
  have hrun' := run_iff_exec.mpr hexec'
  obtain ⟨-, -, hlisted, -⟩ := feed_is_history oneStory promotionalFirst (by decide) (by decide)
    (hrun.append hrun')
  exact ⟨w, w', hrun, hrun', hpages.1, hpages.2.1, hpages.2.2, hlisted⟩

end Feedcast
