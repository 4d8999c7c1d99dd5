/-
  Feedcast.Ingest.Transaction — the transaction of one attempt.

  Everything a persist does is said in terms that are read off the attempt, the
  weather and the stored source:

    • `mem_persistAttempt_seen` — the ids it adds to the tick's set, whether it
      commits or not,
    • `persistAttempt_error_iff` — when it raises,
    • `persistAttempt_ok` — what its commit stores and reports.
-/
import Feedcast.Lib.Except
import Feedcast.Services.Scheduler

namespace Feedcast

open Feedcast.Lib

/-! ## §1. What an attempt reaches.

Everything here is read off the attempt, the weather and the stored source:
nothing depends on how the tick went. -/

/-- The parsed body, when the fetch brought a recognised feed and parsing it
did not raise. -/
def feedOf (P : Platform) (w : Weather) (attempt : FetchAttempt) : Option Parsed :=
  match attempt.fetched with
  | .error _ => none
  | .ok result =>
      if w.raises .citySlugMap ≠ none ∨ result.statusCode = 304 ∨ w.raises .parse ≠ none then none
      else
        match P.feedparse result.content with
        | .error _ => none
        | .ok parsed => if parsed.version = [] then none else some parsed

/-- The ids of the entries before the first one that raises. -/
def reachedIds (P : Platform) (w : Weather) (source : Source) (cities : Str → Option Nat) :
    Nat → List Entry → List Str
  | _, [] => []
  | position, entry :: rest =>
      match w.check (.normalize position), normalizeEntry P source entry position cities with
      | .error _, _ => []
      | .ok (), .error _ => []
      | .ok (), .ok none => reachedIds P w source cities (position + 1) rest
      | .ok (), .ok (some article) =>
          article.id :: reachedIds P w source cities (position + 1) rest

/-- Some entry raises. -/
def EntriesRaise (P : Platform) (w : Weather) (source : Source) (cities : Str → Option Nat) :
    Nat → List Entry → Prop
  | _, [] => False
  | position, entry :: rest =>
      match w.check (.normalize position), normalizeEntry P source entry position cities with
      | .error _, _ => True
      | .ok (), .error _ => True
      | .ok (), .ok _ => EntriesRaise P w source cities (position + 1) rest

/-- `parse_max_age` raises on the response. -/
def MaxAgeRaises (P : Platform) (headers : Headers) : Prop :=
  ∃ e, parseMaxAge P headers = .error e

/-- The ids an attempt on `source` reaches. -/
def sourceIds (P : Platform) (cities : List City) (source : Source)
    (job : FetchAttempt × Weather) : List Str :=
  match feedOf P job.2 job.1 with
  | none => []
  | some parsed => reachedIds P job.2 source (citySlugMap cities) 1 parsed.entries

/-- Persisting a recognised feed raises, in a tick whose earlier attempts
reached the ids `earlier`: an insert of no rows is never sent. -/
def FeedRaises (P : Platform) (cities : List City) (source : Source)
    (job : FetchAttempt × Weather) (headers : Headers) (parsed : Parsed) (earlier : List Str) :
    Prop :=
  EntriesRaise P job.2 source (citySlugMap cities) 1 parsed.entries
    ∨ (job.2.raises .insert ≠ none ∧ ∃ id ∈ sourceIds P cities source job, id ∉ earlier)
    ∨ MaxAgeRaises P headers

/-- Persisting a response raises. -/
def ResponseRaises (P : Platform) (cities : List City) (source : Source)
    (job : FetchAttempt × Weather) (result : FetchResult) (earlier : List Str) : Prop :=
  job.2.raises .citySlugMap ≠ none ∨
    if result.statusCode = 304 then MaxAgeRaises P result.headers
    else
      job.2.raises .parse ≠ none ∨
      match P.feedparse result.content with
      | .error _ => True
      | .ok parsed =>
          parsed.version ≠ [] ∧ FeedRaises P cities source job result.headers parsed earlier

/-- The attempt raises somewhere between opening its transaction and the end of
its commit. -/
def SourceRaises (P : Platform) (cities : List City) (source : Source)
    (job : FetchAttempt × Weather) (earlier : List Str) : Prop :=
  job.2.raises .commit ≠ none ∨
    match job.1.fetched with
    | .error _ => False
    | .ok result => ResponseRaises P cities source job result earlier

/-! ## §2. The entry loop. -/

section EntryLoop

variable {P : Platform} {w : Weather} {source : Source} {cities : Str → Option Nat}

/-- The loop on an entry that becomes an article. -/
theorem collectRows_article {position : Nat} {entry : Entry} {rest : List Entry}
    {seen : List Str} {article : ArticleRow} (hc : w.check (.normalize position) = .ok ())
    (hn : normalizeEntry P source entry position cities = .ok (some article)) :
    collectRows P w source cities position (entry :: rest) seen
      = if article.id ∈ seen then collectRows P w source cities (position + 1) rest seen
        else
          ((collectRows P w source cities (position + 1) rest (article.id :: seen)).1,
            (collectRows P w source cities (position + 1) rest (article.id :: seen)).2.map
              (article :: ·)) := by
  rw [collectRows, hc, hn]

/-- **The set after the loop**, also when an entry raised. -/
theorem mem_collectRows_seen {position : Nat} {entries : List Entry} {seen : List Str} {x : Str} :
    x ∈ (collectRows P w source cities position entries seen).1
      ↔ x ∈ seen ∨ x ∈ reachedIds P w source cities position entries := by
  induction entries generalizing position seen with
  | nil => simp [collectRows, reachedIds]
  | cons entry rest ih =>
      cases hc : w.check (.normalize position) with
      | error e => simp [collectRows, reachedIds, hc]
      | ok _ =>
          cases hn : normalizeEntry P source entry position cities with
          | error e => simp [collectRows, reachedIds, hc, hn]
          | ok a =>
              rw [reachedIds, hc, hn]
              cases a with
              | none =>
                  rw [collectRows, hc, hn]
                  exact ih
              | some article =>
                  rw [collectRows_article hc hn]
                  split
                  · next hmem =>
                      -- seen already: the set is the same
                      rw [ih, List.mem_cons]
                      constructor
                      · intro h
                        rcases h with h | h
                        · exact Or.inl h
                        · exact Or.inr (Or.inr h)
                      · intro h
                        rcases h with h | rfl | h
                        · exact Or.inl h
                        · exact Or.inl hmem
                        · exact Or.inr h
                  · rw [ih, List.mem_cons, List.mem_cons]
                    constructor
                    · intro h
                      rcases h with (h | h) | h
                      · exact Or.inr (Or.inl h)
                      · exact Or.inl h
                      · exact Or.inr (Or.inr h)
                    · intro h
                      rcases h with h | h | h
                      · exact Or.inl (Or.inr h)
                      · exact Or.inl (Or.inl h)
                      · exact Or.inr h

/-- The loop raises where an entry does, whatever the set. -/
theorem collectRows_error_iff {position : Nat} {entries : List Entry} {seen : List Str} :
    (∃ e, (collectRows P w source cities position entries seen).2 = .error e)
      ↔ EntriesRaise P w source cities position entries := by
  induction entries generalizing position seen with
  | nil => simp [collectRows, EntriesRaise]
  -- an entry that was seen or skipped is normalised all the same, and may raise
  | cons entry rest ih =>
      cases hc : w.check (.normalize position) with
      | error e => simp [collectRows, EntriesRaise, hc]
      | ok _ =>
          cases hn : normalizeEntry P source entry position cities with
          | error e => simp [collectRows, EntriesRaise, hc, hn]
          | ok a =>
              rw [EntriesRaise, hc, hn]
              cases a with
              | none =>
                  rw [collectRows, hc, hn]
                  exact ih
              | some article =>
                  rw [collectRows_article hc hn]
                  split
                  · exact ih
                  · -- the rows behind this one raise, or the loop does not
                    have hrest : (∃ e, (collectRows P w source cities (position + 1) rest
                        (article.id :: seen)).2 = .error e)
                        ↔ EntriesRaise P w source cities (position + 1) rest := ih
                    rw [← hrest]
                    cases (collectRows P w source cities (position + 1) rest
                      (article.id :: seen)).2 with
                    | error e => simp [Except.map]
                    | ok rows => simp [Except.map]

/-- **The rows of a loop that did not raise**: the ids reached and not seen. -/
theorem collectRows_rows {position : Nat} {entries : List Entry} {seen : List Str}
    {rows : List ArticleRow}
    (h : (collectRows P w source cities position entries seen).2 = .ok rows) (x : Str) :
    x ∈ rows.map (·.id) ↔ x ∈ reachedIds P w source cities position entries ∧ x ∉ seen := by
  induction entries generalizing position seen rows with
  | nil =>
      simp only [collectRows, Except.ok.injEq] at h
      simp [← h, reachedIds]
  | cons entry rest ih =>
      cases hc : w.check (.normalize position) with
      | error e => simp [collectRows, hc] at h
      | ok _ =>
          cases hn : normalizeEntry P source entry position cities with
          | error e => simp [collectRows, hc, hn] at h
          | ok a =>
              rw [reachedIds, hc, hn]
              cases a with
              | none =>
                  rw [collectRows, hc, hn] at h
                  exact ih h
              | some article =>
                  rw [collectRows_article hc hn] at h
                  split at h
                  · next hmem =>
                      -- no row for a story that was seen
                      rw [ih h, List.mem_cons]
                      constructor
                      · intro hlater
                        obtain ⟨hx, hs⟩ := hlater
                        exact ⟨Or.inr hx, hs⟩
                      · intro h
                        rcases h with ⟨rfl | hx, hs⟩
                        · exact absurd hmem hs
                        · exact ⟨hx, hs⟩
                  · next hmem =>
                      cases hr : (collectRows P w source cities (position + 1) rest
                          (article.id :: seen)).2 with
                      | error e => simp [hr, Except.map] at h
                      | ok tail =>
                          -- one row more, and its id out of the way of the rest
                          simp only [hr, Except.map, Except.ok.injEq] at h
                          subst h
                          rw [List.map_cons, List.mem_cons, ih hr, List.mem_cons, List.mem_cons]
                          constructor
                          · intro h
                            rcases h with rfl | ⟨hx, hs⟩
                            · exact ⟨Or.inl rfl, hmem⟩
                            · exact ⟨Or.inr hx, fun h' => hs (Or.inr h')⟩
                          · intro h
                            rcases h with ⟨rfl | hx, hs⟩
                            · exact Or.inl rfl
                            · by_cases hxa : x = article.id
                              · exact Or.inl hxa
                              · exact Or.inr ⟨hx, fun h' => h'.elim hxa hs⟩

/-- Without a raising entry every article of the feed is reached. -/
theorem reachedIds_of_entry {position i : Nat} {entries : List Entry} {entry : Entry}
    {article : ArticleRow} (h : ¬ EntriesRaise P w source cities position entries)
    (hi : entries[i]? = some entry)
    (ha : normalizeEntry P source entry (position + i) cities = .ok (some article)) :
    article.id ∈ reachedIds P w source cities position entries := by
  induction entries generalizing position i with
  | nil => simp at hi
  | cons first rest ih =>
      unfold EntriesRaise at h
      unfold reachedIds
      cases hc : w.check (.normalize position) with
      | error e => simp [hc] at h
      | ok _ =>
          cases hn : normalizeEntry P source first position cities with
          | error e => simp [hc, hn] at h
          | ok a =>
              simp only [hc, hn] at h
              -- the entry is the first, or behind it at the next position
              cases i with
              | zero =>
                  simp only [List.getElem?_cons_zero, Option.some.injEq] at hi
                  rw [← hi, Nat.add_zero, hn] at ha
                  simp only [Except.ok.injEq] at ha
                  rw [ha]
                  exact List.mem_cons_self
              | succ i =>
                  have hrest := ih h (i := i) (by simpa using hi)
                    (by rw [← ha]; congr 1; omega)
                  cases a with
                  | none => exact hrest
                  | some _ => exact List.mem_cons_of_mem _ hrest

/-- Every id reached is that of an entry. -/
theorem entry_of_reachedIds {position : Nat} {entries : List Entry} {x : Str}
    (h : x ∈ reachedIds P w source cities position entries) :
    ∃ i entry article, entries[i]? = some entry
      ∧ normalizeEntry P source entry (position + i) cities = .ok (some article)
      ∧ article.id = x := by
  induction entries generalizing position with
  | nil => simp [reachedIds] at h
  | cons first rest ih =>
      unfold reachedIds at h
      -- the positions behind the first one are shifted by one
      have hlater : x ∈ reachedIds P w source cities (position + 1) rest →
          ∃ i entry article, (first :: rest)[i]? = some entry
            ∧ normalizeEntry P source entry (position + i) cities = .ok (some article)
            ∧ article.id = x := by
        intro hx
        obtain ⟨i, entry, article, hi, ha, hid⟩ := ih hx
        refine ⟨i + 1, entry, article, by simpa using hi, ?_, hid⟩
        rw [← ha]
        congr 1
        omega
      cases hc : w.check (.normalize position) with
      | error e => simp [hc] at h
      | ok _ =>
          cases hn : normalizeEntry P source first position cities with
          | error e => simp [hc, hn] at h
          | ok a =>
              simp only [hc, hn] at h
              cases a with
              | none => exact hlater h
              | some article =>
                  rcases List.mem_cons.mp h with rfl | h
                  · exact ⟨0, first, article, rfl, hn, rfl⟩
                  · exact hlater h

end EntryLoop

/-! ## §3. One transaction. -/

section Transaction

variable {P : Platform} {w : Weather} {source : Source} {attempt : FetchAttempt}
  {seen : List Str}

theorem check_eq_error {p : Point} {e : Str} : w.check p = .error e ↔ w.raises p = some e := by
  unfold Weather.check
  cases w.raises p <;> simp

theorem check_eq_ok {p : Point} : w.check p = .ok () ↔ w.raises p = none := by
  unfold Weather.check
  cases w.raises p <;> simp

theorem recordFetchSuccess_error_iff (P : Platform) (source : Source) (headers : Headers)
    (now : Time) :
    (∃ e, recordFetchSuccess P source headers now = .error e) ↔ MaxAgeRaises P headers := by
  unfold recordFetchSuccess MaxAgeRaises
  cases parseMaxAge P headers <;> simp [bind, Except.bind, pure, Except.pure]

/-- **What a success writes to the row.** -/
theorem recordFetchSuccess_eq {headers : Headers} {now : Time} {source' : Source}
    (h : recordFetchSuccess P source headers now = .ok source') :
    ∃ maxAge, parseMaxAge P headers = .ok maxAge
      ∧ source' = { source with
          etag := orElse headers.etag source.etag
          lastModified := orElse headers.lastModified source.lastModified
          cacheMaxAgeSeconds := maxAge
          lastSuccessAt := some now
          lastFetchedAt := some now
          consecutiveFailures := 0
          lastError := none
          lastErrorAt := none } := by
  unfold recordFetchSuccess at h
  obtain ⟨maxAge, hmaxAge, h⟩ := except_bind_ok.mp h
  exact ⟨maxAge, hmaxAge, (Except.ok.inj h).symm⟩

/-- The columns a success leaves alone. -/
theorem recordFetchSuccess_id {headers : Headers} {now : Time} {source' : Source}
    (h : recordFetchSuccess P source headers now = .ok source') : source'.id = source.id := by
  obtain ⟨maxAge, -, rfl⟩ := recordFetchSuccess_eq h
  rfl

/-- What there is to commit when nothing is to be inserted: a success record
after a 304, or a failure record. -/
theorem parseResult_eq_done {cities : List City} {result : FetchResult} {now : Time}
    {ingested : Ingested}
    (h : (parseResult P w cities source result now seen).2 = .ok (.done ingested)) :
    (∃ source', recordFetchSuccess P source result.headers now = .ok source'
        ∧ ingested =
          { outcome := { sourceId := source.id, ok := true, newArticles := 0
                         error := none, notModified := true }
            source := source'
            articles := [] })
      ∨ ∃ error, ingested =
          { outcome := (recordFetchFailure source error now).2
            source := (recordFetchFailure source error now).1
            articles := [] } := by
  unfold parseResult at h
  split at h
  · cases h
  · split at h
    · cases hs : recordFetchSuccess P source result.headers now with
      | error e => simp [hs, bind, Except.bind] at h
      | ok source' =>
          simp only [hs, bind, Except.bind, pure, Except.pure, Except.ok.injEq,
            Parse.done.injEq] at h
          exact Or.inl ⟨source', rfl, h.symm⟩
    · split at h
      · cases h
      · cases h
      · next parsed _ _ =>
          split at h
          · simp only [Except.ok.injEq, Parse.done.injEq] at h
            exact Or.inr ⟨_, h.symm⟩
          -- a feed with rows is not done: its success comes after the insert
          · cases hr : (collectRows P w source (citySlugMap cities) 1 parsed.entries seen).2 with
            | error e => simp [hr, Except.map] at h
            | ok rows => simp [hr, Except.map] at h

/-- What the part of a persist before the insert does, by whether the attempt
brought a feed. -/
theorem parseResult_cases (P : Platform) (w : Weather) (cities : List City) (source : Source)
    (now : Time) (seen : List Str) {result : FetchResult}
    (hfetched : attempt.fetched = .ok result) :
    (feedOf P w attempt = none ∧ (parseResult P w cities source result now seen).1 = seen
      ∧ ((∃ e, (parseResult P w cities source result now seen).2 = .error e)
            ∧ ResponseRaises P cities source (attempt, w) result seen
        ∨ ∃ ingested, (parseResult P w cities source result now seen).2 = .ok (.done ingested)
            ∧ ingested.articles = [] ∧ ingested.source.id = source.id
            ∧ ingested.outcome.sourceId = source.id
            ∧ ¬ (ingested.outcome.ok = true ∧ ingested.outcome.notModified = false)
            ∧ ¬ ResponseRaises P cities source (attempt, w) result seen))
    ∨ ∃ parsed, feedOf P w attempt = some parsed
        ∧ (ResponseRaises P cities source (attempt, w) result seen
          ↔ FeedRaises P cities source (attempt, w) result.headers parsed seen)
        ∧ parseResult P w cities source result now seen
          = ((collectRows P w source (citySlugMap cities) 1 parsed.entries seen).1,
              (collectRows P w source (citySlugMap cities) 1 parsed.entries seen).2.map
                .rows) := by
  unfold feedOf parseResult ResponseRaises
  rw [hfetched]
  -- down the branches of the source, the weather of each step first
  cases hc : w.check .citySlugMap with
  | error e =>
      rw [check_eq_error] at hc
      simp [hc]
  | ok _ =>
      rw [check_eq_ok] at hc
      by_cases h304 : result.statusCode = 304
      · -- unchanged: a success record and no feed
        left
        simp only [h304, if_true]
        refine ⟨by simp, trivial, ?_⟩
        have hraises := recordFetchSuccess_error_iff P source result.headers now
        cases hs : recordFetchSuccess P source result.headers now with
        | error e =>
            rw [hs] at hraises
            exact Or.inl ⟨⟨e, by simp [bind, Except.bind]⟩, Or.inr (hraises.mp ⟨e, rfl⟩)⟩
        | ok source' =>
            rw [hs] at hraises
            exact Or.inr ⟨_, rfl, rfl, recordFetchSuccess_id hs, rfl, by simp,
              by simpa [hc] using hraises⟩
      · cases hp : w.check .parse with
        | error e =>
            rw [check_eq_error] at hp
            simp [h304, hp]
        | ok _ =>
            rw [check_eq_ok] at hp
            cases hf : P.feedparse result.content with
            | error e => simp [h304, hc, hp, hf]
            | ok parsed =>
                by_cases hv : parsed.version = []
                · -- not a feed: a failure record
                  left
                  simp only [h304, hv, if_true, if_false]
                  exact ⟨by simp [hc, hp, hf, hv], trivial,
                    Or.inr ⟨_, rfl, rfl, rfl, rfl, by simp [recordFetchFailure],
                      by simp [hc, hp]⟩⟩
                · -- a recognised feed: the entry loop decides
                  right
                  exact ⟨parsed, by simp [h304, hc, hp, hf, hv], by simp [h304, hc, hp, hv],
                    by simp [h304, hv]⟩

/-- **What a transaction adds to the tick's set**, committed or not. -/
theorem mem_persistAttempt_seen {db : Db} {x : Str} :
    x ∈ (persistAttempt P w db source attempt seen).1
      ↔ x ∈ seen ∨ x ∈ sourceIds P db.cities source (attempt, w) := by
  cases hfetched : attempt.fetched with
  | error e => simp [persistAttempt, sourceIds, feedOf, hfetched]
  | ok result =>
      have hcases :=
        parseResult_cases P w db.cities source attempt.attemptedAt seen hfetched
      simp only [persistAttempt, parseAndPersist, sourceIds, hfetched]
      -- no feed, no ids; or a feed, whose ids the loop has seen
      rcases hcases with ⟨hnone, hseen, -⟩ | ⟨parsed, hsome, -, hparse⟩
      · rw [hseen, hnone]
        simp
      · rw [hparse, hsome]
        exact mem_collectRows_seen

theorem commitTxn_error_iff {txn : Raises Ingested} :
    (∃ e, commitTxn w txn = .error e) ↔ w.raises .commit ≠ none ∨ ∃ e, txn = .error e := by
  unfold commitTxn
  cases txn with
  | error e => simp [bind, Except.bind]
  | ok ingested =>
      -- the transaction came out, so only the commit itself can still raise
      cases hc : w.check .commit with
      | error e =>
          rw [check_eq_error] at hc
          simp [hc, bind, Except.bind]
      | ok _ =>
          rw [check_eq_ok] at hc
          simp [hc, bind, Except.bind, pure, Except.pure]

theorem commitTxn_ok {txn : Raises Ingested} {ingested : Ingested}
    (h : commitTxn w txn = .ok ingested) : txn = .ok ingested := by
  unfold commitTxn at h
  obtain ⟨committed, htxn, h⟩ := except_bind_ok.mp h
  obtain ⟨-, -, h⟩ := except_bind_ok.mp h
  rw [htxn]
  exact h

theorem insertRows_error_iff {articles : List Article} {headers : Headers} {now : Time}
    {rows : List ArticleRow} :
    (∃ e, insertRows P w articles source headers now rows = .error e)
      ↔ (rows ≠ [] ∧ w.raises .insert ≠ none) ∨ MaxAgeRaises P headers := by
  rw [← recordFetchSuccess_error_iff P source headers now]
  unfold insertRows recordInserted
  -- an empty insert is not sent, so its failure does not matter then
  cases hc : w.check .insert with
  | error e =>
      rw [check_eq_error] at hc
      cases rows <;> cases recordFetchSuccess P source headers now <;>
        simp [hc, bind, Except.bind, pure, Except.pure]
  | ok _ =>
      rw [check_eq_ok] at hc
      cases rows <;> cases recordFetchSuccess P source headers now <;>
        simp [hc, bind, Except.bind, pure, Except.pure]

theorem recordInserted_eq {headers : Headers} {now : Time} {new : List Article}
    {ingested : Ingested} (h : recordInserted P source headers now new = .ok ingested) :
    ∃ source', recordFetchSuccess P source headers now = .ok source'
      ∧ ingested =
        { outcome := { sourceId := source.id, ok := true, newArticles := new.length, error := none }
          source := source'
          articles := new } := by
  unfold recordInserted at h
  obtain ⟨source', hsuccess, h⟩ := except_bind_ok.mp h
  exact ⟨source', hsuccess, (Except.ok.inj h).symm⟩

theorem recordInserted_ok {headers : Headers} {now : Time} {new : List Article}
    {ingested : Ingested} (h : recordInserted P source headers now new = .ok ingested) :
    ingested.source.id = source.id ∧ ingested.outcome.sourceId = source.id
      ∧ ingested.outcome.ok = true ∧ ingested.outcome.notModified = false
      ∧ ingested.articles = new ∧ ingested.outcome.newArticles = new.length := by
  obtain ⟨source', hs, rfl⟩ := recordInserted_eq h
  exact ⟨recordFetchSuccess_id hs, rfl, rfl, rfl, rfl, rfl⟩

theorem insertRows_ok {articles : List Article} {headers : Headers} {now : Time}
    {rows : List ArticleRow} {ingested : Ingested}
    (h : insertRows P w articles source headers now rows = .ok ingested) :
    recordInserted P source headers now
      (inserted (fun a : Article => a.id) articles (rows.map (·.insert w.dbNow)))
      = .ok ingested := by
  unfold insertRows at h
  by_cases hrows : rows = []
  · simpa [hrows, bind, Except.bind, pure, Except.pure] using h
  · cases hc : w.check .insert with
    | error e => simp [hrows, hc, bind, Except.bind] at h
    | ok _ => simpa [hrows, hc, bind, Except.bind] using h

/-- **When a transaction raises**: a function of the attempt, the weather, the
stored source and the ids reached earlier. -/
theorem persistAttempt_error_iff {db : Db} :
    (∃ e, commitTxn w (persistAttempt P w db source attempt seen).2 = .error e)
      ↔ SourceRaises P db.cities source (attempt, w) seen := by
  rw [commitTxn_error_iff]
  unfold SourceRaises
  refine or_congr_right ?_
  cases hfetched : attempt.fetched with
  | error e => simp [persistAttempt, hfetched]
  | ok result =>
      simp only [persistAttempt, parseAndPersist, hfetched]
      rcases parseResult_cases P w db.cities source attempt.attemptedAt seen hfetched with
        ⟨-, -, ⟨⟨e, he⟩, hraises⟩ | ⟨ingested, hdone, -, -, -, -, hquiet⟩⟩
        | ⟨parsed, hsome, hiff, hparse⟩
      · simp [he, hraises, bind, Except.bind]
      · simp [hdone, hquiet, bind, Except.bind, pure, Except.pure]
      · rw [hiff, hparse]
        unfold FeedRaises
        cases hrows : (collectRows P w source (citySlugMap db.cities) 1 parsed.entries seen).2 with
        | error e =>
            have hentries := collectRows_error_iff.mp ⟨e, hrows⟩
            simp [hentries, Except.map, bind, Except.bind]
        | ok rows =>
            have hentries : ¬ EntriesRaise P w source (citySlugMap db.cities) 1 parsed.entries := by
              intro h
              obtain ⟨e, he⟩ := collectRows_error_iff.mpr h
              rw [hrows] at he
              cases he
            -- there are rows to insert exactly if an id reached is new to the tick
            have hne : rows ≠ []
                ↔ ∃ id ∈ sourceIds P db.cities source (attempt, w), id ∉ seen := by
              have hmem : (∃ x, x ∈ rows.map (·.id))
                  ↔ ∃ id ∈ sourceIds P db.cities source (attempt, w), id ∉ seen := by
                simp only [collectRows_rows hrows, sourceIds, hsome]
              rw [← hmem]
              constructor
              · intro h
                obtain ⟨row, hrow⟩ := List.exists_mem_of_ne_nil rows h
                exact ⟨row.id, List.mem_map_of_mem hrow⟩
              · intro h h'
                obtain ⟨x, hx⟩ := h
                subst h'
                cases hx
            show (∃ e, insertRows P w db.articles source result.headers attempt.attemptedAt rows
              = .error e) ↔ _
            rw [insertRows_error_iff, hne]
            simp only [hentries, false_or, and_comm]

/-- **What a committed transaction leaves.** -/
theorem persistAttempt_ok {db : Db} {ingested : Ingested}
    (h : (persistAttempt P w db source attempt seen).2 = .ok ingested) :
    ingested.source.id = source.id ∧ ingested.outcome.sourceId = source.id
      ∧ ((ingested.outcome.ok = true ∧ ingested.outcome.notModified = false)
        ↔ feedOf P w attempt ≠ none)
      ∧ ∀ x, x ∈ (db.articles ++ ingested.articles).map (·.id)
          ↔ x ∈ db.articles.map (·.id)
            ∨ (x ∈ sourceIds P db.cities source (attempt, w) ∧ x ∉ seen) := by
  cases hfetched : attempt.fetched with
  | error e =>
      simp only [persistAttempt, hfetched, recordFetchFailure, Except.ok.injEq] at h
      subst h
      exact ⟨rfl, rfl, by simp [feedOf, hfetched], by simp [sourceIds, feedOf, hfetched]⟩
  | ok result =>
      simp only [persistAttempt, parseAndPersist, hfetched] at h
      rcases parseResult_cases P w db.cities source attempt.attemptedAt seen hfetched with
        ⟨hnone, -, ⟨⟨e, he⟩, -⟩ | ⟨ing, hdone, hempty, hid, hsid, hok, -⟩⟩
        | ⟨parsed, hsome, -, hparse⟩
      · simp [he, bind, Except.bind] at h
      · simp only [hdone, bind, Except.bind, pure, Except.pure, Except.ok.injEq] at h
        subst h
        exact ⟨hid, hsid, by simp [hnone, hok], by simp [hempty, sourceIds, hnone]⟩
      · rw [hparse] at h
        cases hrows : (collectRows P w source (citySlugMap db.cities) 1 parsed.entries seen).2 with
        | error e => simp [hrows, Except.map, bind, Except.bind] at h
        | ok rows =>
            simp only [hrows, Except.map, bind, Except.bind] at h
            obtain ⟨hid, hsid, hok, hmod, harticles, -⟩ := recordInserted_ok (insertRows_ok h)
            refine ⟨hid, hsid, by simp [hok, hmod, hsome], ?_⟩
            intro x
            have hkeys := mem_keys_upsert (fun a : Article => a.id) db.articles
              (rows.map (·.insert w.dbNow)) x
            rw [upsert, ← harticles] at hkeys
            rw [hkeys, List.map_map]
            -- `collectRows` keeps what was reached and not seen, each once
            simp only [sourceIds, hsome, ← collectRows_rows hrows]
            rfl

/-- The rows a transaction adds are those of one insert. -/
theorem persistAttempt_articles {db : Db} {ingested : Ingested}
    (h : (persistAttempt P w db source attempt seen).2 = .ok ingested) :
    ∃ rows : List ArticleRow, ingested.articles
      = inserted (fun a : Article => a.id) db.articles (rows.map (·.insert w.dbNow)) := by
  cases hfetched : attempt.fetched with
  | error e =>
      simp only [persistAttempt, hfetched, recordFetchFailure, Except.ok.injEq] at h
      subst h
      exact ⟨[], rfl⟩
  | ok result =>
      simp only [persistAttempt, parseAndPersist, hfetched] at h
      -- only a recognised feed comes to an insert
      rcases parseResult_cases P w db.cities source attempt.attemptedAt seen hfetched with
        ⟨-, -, ⟨⟨e, he⟩, -⟩ | ⟨ing, hdone, hempty, -, -, -, -⟩⟩ | ⟨parsed, -, -, hparse⟩
      · simp [he, bind, Except.bind] at h
      · simp only [hdone, bind, Except.bind, pure, Except.pure, Except.ok.injEq] at h
        subst h
        exact ⟨[], hempty⟩
      · rw [hparse] at h
        cases hrows : (collectRows P w source (citySlugMap db.cities) 1 parsed.entries seen).2 with
        | error e => simp [hrows, Except.map, bind, Except.bind] at h
        | ok rows =>
            simp only [hrows, Except.map, bind, Except.bind] at h
            obtain ⟨-, -, -, -, harticles, -⟩ := recordInserted_ok (insertRows_ok h)
            exact ⟨rows, harticles⟩

end Transaction

end Feedcast
