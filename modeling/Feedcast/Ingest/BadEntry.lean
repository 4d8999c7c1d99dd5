/-
  Feedcast.Ingest.BadEntry — what one bad entry does to its feed.

  `_normalize_entry` skips an entry without a link or a title, and raises on a
  link `urlsplit` rejects, a text `html.unescape` does, or a time that `mktime`
  or `fromtimestamp` does not convert.  The loop over the entries catches nothing,
  so the whole feed is lost with the entry:

    • `normalizeEntry_error_iff` — when one entry raises,
    • `parseAndPersist_error_iff` — when a feed does, also on a database that
      refuses a write,
    • `feed_kept_iff` — hence when the entries of a feed are stored,
    • `bracketLink_loses` — a good entry that is lost with a bad one.
-/
import Feedcast.Ingest.TickDedupe

namespace Feedcast

open Feedcast.Lib

/-- Nothing outside the source raises. -/
def Weather.quiet (dbNow : Time) : Weather where
  raises _ := none
  dbNow := dbNow

/-- Only a write is ever refused. -/
structure Weather.OnlyWritesFail (w : Weather) : Prop where
  citySlugMap : w.check .citySlugMap = .ok ()
  parse : w.check .parse = .ok ()
  normalize : ∀ position, w.check (.normalize position) = .ok ()

theorem quiet_onlyWritesFail (dbNow : Time) : (Weather.quiet dbNow).OnlyWritesFail :=
  ⟨rfl, rfl, fun _ => rfl⟩

/-! ## §1. One entry. -/

/-- A text `html.unescape` takes. -/
def Unescapes (P : Platform) (text : Str) : Prop := ∃ unescaped, P.htmlUnescape text = .ok unescaped

/-- A time that converts: to a second, and that to an instant. -/
def Converts (P : Platform) (t : TimeTuple) : Prop :=
  ∃ second instant, P.mktime t = .ok second ∧ P.fromTimestamp second = .ok instant

/-- An entry that can be normalised, or is skipped. -/
def EntryNormalizable (P : Platform) (entry : Entry) : Prop :=
  ∀ link title, truthy entry.link = some link → truthy entry.title = some title →
    (∃ parts, urlsplit P link = .ok parts)
      ∧ Unescapes P title
      ∧ (∀ summary, truthy entry.summary = some summary → Unescapes P summary)
      ∧ ∀ t ∈ entry.publishedParsed, Converts P t

theorem parseTime_ok_iff {P : Platform} {published : Option TimeTuple} :
    (∃ t, parseTime P published = .ok t) ↔ ∀ t ∈ published, Converts P t := by
  cases published with
  -- no date: nothing is converted
  | none => exact iff_of_true ⟨none, rfl⟩ nofun
  | some t =>
      unfold parseTime Converts
      simp only [except_bind_ok, Option.mem_some_iff, forall_eq']
      constructor
      · intro h
        obtain ⟨_, second, hsecond, instant, hinstant, -⟩ := h
        exact ⟨second, instant, hsecond, hinstant⟩
      · intro h
        obtain ⟨second, instant, hsecond, hinstant⟩ := h
        exact ⟨some instant, second, hsecond, instant, hinstant, rfl⟩

theorem entrySummary_ok_iff {P : Platform} {rawSummary : Option Str} :
    (∃ summary, entrySummary P rawSummary = .ok summary) ↔
      ∀ summary, truthy rawSummary = some summary → Unescapes P summary := by
  unfold entrySummary Unescapes
  cases truthy rawSummary with
  -- no summary: nothing is unescaped
  | none => exact iff_of_true ⟨none, rfl⟩ nofun
  | some raw =>
      simp only [except_bind_ok, Option.some.injEq, forall_eq']
      constructor
      · intro h
        obtain ⟨_, text, htext, -⟩ := h
        exact ⟨text, htext⟩
      · intro h
        obtain ⟨text, htext⟩ := h
        exact ⟨_, text, htext, rfl⟩

/-- **An entry normalises, or is skipped, exactly if each of its parts can be
read.** -/
theorem normalizeEntry_ok_iff {P : Platform} {source : Source} {entry : Entry}
    {position : Nat} {cities : Str → Option Nat} :
    (∃ article, normalizeEntry P source entry position cities = .ok article) ↔
      EntryNormalizable P entry := by
  unfold normalizeEntry EntryNormalizable
  cases hlink : truthy entry.link with
  | none => exact iff_of_true ⟨none, rfl⟩ nofun
  | some link =>
      cases htitle : truthy entry.title with
      | none => exact iff_of_true ⟨none, rfl⟩ nofun
      | some title =>
          rw [← entrySummary_ok_iff, ← parseTime_ok_iff]
          unfold canonicalizeUrl extractCity Unescapes
          simp only [Option.some.injEq, except_bind_ok]
          constructor
          · intro h link' title' hsame hsame'
            subst hsame hsame'
            obtain ⟨_, _, ⟨parts, hparts, -⟩, text, htext, summary, hsummary, t, ht, -⟩ := h
            exact ⟨⟨parts, hparts⟩, ⟨text, htext⟩, ⟨summary, hsummary⟩, ⟨t, ht⟩⟩
          · intro h
            obtain ⟨⟨parts, hparts⟩, ⟨text, htext⟩, ⟨summary, hsummary⟩, ⟨t, ht⟩⟩ :=
              h link title rfl rfl
            -- the link is split twice, for its canonical form and for its city
            exact ⟨_, _, ⟨parts, hparts, rfl⟩, text, htext, summary, hsummary, t, ht, _,
              ⟨parts, hparts, rfl⟩, rfl⟩

/-- **An entry raises exactly if one of its parts cannot be read.** -/
theorem normalizeEntry_error_iff {P : Platform} {source : Source} {entry : Entry}
    {position : Nat} {cities : Str → Option Nat} :
    (∃ e, normalizeEntry P source entry position cities = .error e) ↔
      ¬ EntryNormalizable P entry := by
  rw [except_ok_or_error, normalizeEntry_ok_iff]

/-! ## §2. The entries of a feed. -/

theorem entriesRaise_iff {P : Platform} {w : Weather} (hw : w.OnlyWritesFail) {source : Source}
    {cities : Str → Option Nat} {position : Nat} {entries : List Entry} :
    EntriesRaise P w source cities position entries ↔
      ∃ entry ∈ entries, ¬ EntryNormalizable P entry := by
  induction entries generalizing position with
  | nil => simp [EntriesRaise]
  | cons entry rest ih =>
      rw [EntriesRaise, hw.normalize position, List.exists_mem_cons_iff, ← @ih (position + 1),
          ← @normalizeEntry_error_iff P source entry position cities]
      -- the first entry that raises ends the loop
      cases normalizeEntry P source entry position cities with
      | error e => simp
      | ok article => simp

/-- A loop that returned met no entry that raises. -/
theorem not_entriesRaise {P : Platform} {w : Weather} {source : Source} {cities : Str → Option Nat}
    {position : Nat} {entries : List Entry} {seen : List Str} {rows : List ArticleRow}
    (h : (collectRows P w source cities position entries seen).2 = .ok rows) :
    ¬ EntriesRaise P w source cities position entries := by
  intro hraise
  obtain ⟨e, herror⟩ := collectRows_error_iff.mpr hraise
  rw [h] at herror
  cases herror

/-- Some entry has an id not seen before in the tick, so an insert is sent. -/
def SendsRow (P : Platform) (cities : List City) (source : Source) (entries : List Entry)
    (seen : List Str) : Prop :=
  ∃ (i : Nat) (entry : Entry) (article : ArticleRow), entries[i]? = some entry
    ∧ normalizeEntry P source entry (1 + i) (citySlugMap cities) = .ok (some article)
    ∧ article.id ∉ seen

/-- **The rows collected are those of such entries.** -/
theorem sendsRow_iff {P : Platform} {w : Weather} {source : Source} {cities : List City}
    {entries : List Entry} {seen : List Str} {rows : List ArticleRow}
    (h : (collectRows P w source (citySlugMap cities) 1 entries seen).2 = .ok rows) :
    rows ≠ [] ↔ SendsRow P cities source entries seen := by
  constructor
  · intro hne
    obtain ⟨row, hrow⟩ := List.exists_mem_of_ne_nil rows hne
    obtain ⟨hreached, hnew⟩ := (collectRows_rows h row.id).mp (List.mem_map_of_mem hrow)
    obtain ⟨i, entry, article, hentry, harticle, hid⟩ := entry_of_reachedIds hreached
    exact ⟨i, entry, article, hentry, harticle, hid ▸ hnew⟩
  · intro hsends hnil
    obtain ⟨i, entry, article, hentry, harticle, hnew⟩ := hsends
    -- the loop came to its end, so it reached the entry
    have hrow := (collectRows_rows h article.id).mpr
      ⟨reachedIds_of_entry (not_entriesRaise h) hentry harticle, hnew⟩
    rw [hnil] at hrow
    cases hrow

/-- **A feed whose entries are kept**: `parse_and_persist` completes with ok,
records the success, and leaves every entry that can be normalised on its own
in the table, unless its id was seen earlier in the tick. -/
def FeedKept (P : Platform) (db : Db) (source : Source) (result : FetchResult) (parsed : Parsed)
    (now dbNow : Time) (seen : List Str) : Prop :=
  ∃ ingested,
    (parseAndPersist P (Weather.quiet dbNow) db source result now seen).2 = .ok ingested
      ∧ ingested.outcome.ok = true
      ∧ recordFetchSuccess P source result.headers now = .ok ingested.source
      ∧ ∀ i entry article, parsed.entries[i]? = some entry →
          normalizeEntry P source entry (1 + i) (citySlugMap db.cities) = .ok (some article) →
            article.id ∈ seen ∨ article.id ∈ (db.articles ++ ingested.articles).map (·.id)

section Feed

variable {P : Platform} {w : Weather} {db : Db} {source : Source} {result : FetchResult}
  {parsed : Parsed} {now : Time} {seen : List Str}

/-- Persisting a recognised feed is the loop, then the insert. -/
theorem parseAndPersist_recognised (hw : w.OnlyWritesFail) (hstatus : result.statusCode ≠ 304)
    (hparse : P.feedparse result.content = .ok parsed) (hversion : parsed.version ≠ []) :
    (parseAndPersist P w db source result now seen).2 = (do
      let rows ← (collectRows P w source (citySlugMap db.cities) 1 parsed.entries seen).2
      insertRows P w db.articles source result.headers now rows) := by
  simp only [parseAndPersist, parseResult, hw.citySlugMap, hw.parse, if_neg hstatus, hparse,
    if_neg hversion]
  cases (collectRows P w source (citySlugMap db.cities) 1 parsed.entries seen).2 with
  | error e => rfl
  | ok rows => rfl

/-- **A persist of a recognised feed raises** through an entry, through the
insert or through the header. -/
theorem parseAndPersist_error_iff (hw : w.OnlyWritesFail) (hstatus : result.statusCode ≠ 304)
    (hparse : P.feedparse result.content = .ok parsed) (hversion : parsed.version ≠ []) :
    (∃ e, (parseAndPersist P w db source result now seen).2 = .error e) ↔
      (∃ entry ∈ parsed.entries, ¬ EntryNormalizable P entry)
        ∨ (SendsRow P db.cities source parsed.entries seen ∧ w.raises .insert ≠ none)
        ∨ MaxAgeRaises P result.headers := by
  rw [parseAndPersist_recognised hw hstatus hparse hversion,
      ← @entriesRaise_iff P w hw source (citySlugMap db.cities) 1]
  have hloop := @collectRows_error_iff P w source (citySlugMap db.cities) 1 parsed.entries seen
  -- the rows are collected first; only when that went well do insert and header matter
  cases hrows : (collectRows P w source (citySlugMap db.cities) 1 parsed.entries seen).2 with
  | error e => exact iff_of_true ⟨e, rfl⟩ (Or.inl (hloop.mp ⟨e, hrows⟩))
  | ok rows =>
      -- the collecting returned, so no entry raised
      rw [or_iff_right (not_entriesRaise hrows), ← sendsRow_iff hrows]
      exact insertRows_error_iff

/-- A quiet persist of a recognised feed raises through an entry or through
the header. -/
theorem parseAndPersist_quiet_error {dbNow : Time} (hstatus : result.statusCode ≠ 304)
    (hparse : P.feedparse result.content = .ok parsed) (hversion : parsed.version ≠ []) :
    (∃ e, (parseAndPersist P (Weather.quiet dbNow) db source result now seen).2 = .error e) ↔
      (∃ entry ∈ parsed.entries, ¬ EntryNormalizable P entry) ∨ MaxAgeRaises P result.headers := by
  have hquiet : (Weather.quiet dbNow).raises .insert = none := rfl
  rw [parseAndPersist_error_iff (quiet_onlyWritesFail dbNow) hstatus hparse hversion, hquiet]
  simp

/-- The success record of an insert. -/
theorem recordInserted_source {headers : Headers} {new : List Article} {ingested : Ingested}
    (h : recordInserted P source headers now new = .ok ingested) :
    recordFetchSuccess P source headers now = .ok ingested.source := by
  obtain ⟨source', hsuccess, rfl⟩ := recordInserted_eq h
  exact hsuccess

/-- **What a persist that completes has done.** -/
theorem parseAndPersist_ok (hw : w.OnlyWritesFail) (hstatus : result.statusCode ≠ 304)
    (hparse : P.feedparse result.content = .ok parsed) (hversion : parsed.version ≠ [])
    {ingested : Ingested}
    (h : (parseAndPersist P w db source result now seen).2 = .ok ingested) :
    ingested.outcome.ok = true
      ∧ recordFetchSuccess P source result.headers now = .ok ingested.source
      ∧ ∀ i entry article, parsed.entries[i]? = some entry →
          normalizeEntry P source entry (1 + i) (citySlugMap db.cities) = .ok (some article) →
            article.id ∈ seen ∨ article.id ∈ (db.articles ++ ingested.articles).map (·.id) := by
  rw [parseAndPersist_recognised hw hstatus hparse hversion] at h
  cases hrows : (collectRows P w source (citySlugMap db.cities) 1 parsed.entries seen).2 with
  | error e => simp [hrows, bind, Except.bind] at h
  | ok rows =>
      rw [hrows] at h
      have hrecorded := insertRows_ok h
      obtain ⟨-, -, hok, -, harticles, -⟩ := recordInserted_ok hrecorded
      refine ⟨hok, recordInserted_source hrecorded, ?_⟩
      intro i entry article hentry harticle
      -- the loop reaches the entry; its id was seen, or its row is inserted
      have hreached := reachedIds_of_entry (not_entriesRaise hrows) hentry harticle
      by_cases hseen : article.id ∈ seen
      · exact Or.inl hseen
      · right
        have hrow := (collectRows_rows hrows article.id).mpr ⟨hreached, hseen⟩
        rw [harticles]
        refine (mem_keys_upsert (fun a : Article => a.id) db.articles _ article.id).mpr (Or.inr ?_)
        rw [List.map_map]
        exact hrow

/-- **A FEED IS KEPT EXACTLY IF** every entry with a link and a title has a
link that splits, texts that unescape and a time that converts, and the response's
`max-age` is a number `int` accepts. -/
theorem feed_kept_iff (P : Platform) (db : Db) (source : Source) (result : FetchResult)
    (parsed : Parsed) (now dbNow : Time) (seen : List Str) (hstatus : result.statusCode ≠ 304)
    (hparse : P.feedparse result.content = .ok parsed) (hversion : parsed.version ≠ []) :
    FeedKept P db source result parsed now dbNow seen ↔
      (∀ entry ∈ parsed.entries, EntryNormalizable P entry)
        ∧ ¬ MaxAgeRaises P result.headers := by
  -- a feed is lost only through an error, and the errors are known
  have herror := @parseAndPersist_quiet_error P db source result parsed now seen dbNow hstatus
    hparse hversion
  have hfine : ((∀ entry ∈ parsed.entries, EntryNormalizable P entry)
      ∧ ¬ MaxAgeRaises P result.headers) ↔
        ¬ ((∃ entry ∈ parsed.entries, ¬ EntryNormalizable P entry)
          ∨ MaxAgeRaises P result.headers) := by
    rw [not_or]
    simp
  rw [hfine, ← herror]
  constructor
  · intro h
    obtain ⟨ingested, hrun, -⟩ := h
    intro hraised
    obtain ⟨e, he⟩ := hraised
    rw [hrun] at he
    cases he
  · intro h
    -- no error: the run returns, and what it returns keeps every entry
    cases hrun : (parseAndPersist P (Weather.quiet dbNow) db source result now seen).2 with
    | error e => exact absurd ⟨e, hrun⟩ h
    | ok ingested =>
        exact ⟨ingested, hrun,
          parseAndPersist_ok (quiet_onlyWritesFail dbNow) hstatus hparse hversion hrun⟩

end Feed

/-! ## §3. A good entry lost with a bad one. -/

/-- An entry whose link has an unbalanced bracket in its authority. -/
def bracketEntry : Entry where
  link := some "https://[example.test/news/metro".toList
  title := some "Metro line opens".toList

/-- The feed with both entries, the good one first. -/
def bracketFeed : Parsed where
  version := "rss20".toList
  bozo := false
  bozoException := []
  entries := [drainageEntry, bracketEntry]

/-- A platform on which every body is that feed. -/
def bracketFeeds : Platform := asciiPlatform fun _ => .ok bracketFeed

def okResult : FetchResult where
  statusCode := 200
  headers := {}
  content := []
  finalUrl := testTimes.feedUrl

/-- **One bad link, and the good entry is lost**: on its own it normalises,
and nothing of the feed is persisted. -/
theorem bracketLink_loses :
    EntryNormalizable bracketFeeds drainageEntry
      ∧ ¬ FeedKept bracketFeeds twoSources (testTimes.row 1 1) okResult bracketFeed 0 0 [] := by
  constructor
  · intro link title hlink _
    cases hlink
    exact ⟨⟨_, rfl⟩, ⟨_, rfl⟩, nofun, nofun⟩
  · intro h
    obtain ⟨ingested, hrun, -⟩ := h
    rw [parseAndPersist_recognised (quiet_onlyWritesFail 0) (by decide) rfl (by decide)] at hrun
    -- the entry beside it has a link that urlsplit refuses
    have hraise : EntriesRaise bracketFeeds (Weather.quiet 0) (testTimes.row 1 1)
        (citySlugMap twoSources.cities) 1 bracketFeed.entries := by
      rw [entriesRaise_iff (quiet_onlyWritesFail 0)]
      refine ⟨bracketEntry, by decide, ?_⟩
      intro hnormal
      obtain ⟨⟨parts, hsplit⟩, -⟩ := hnormal _ _ rfl rfl
      cases hsplit
    obtain ⟨e, he⟩ := (@collectRows_error_iff _ _ _ _ _ _ []).mpr hraise
    rw [he] at hrun
    cases hrun

theorem feed_kept_iff_bracketFeed :
    FeedKept bracketFeeds twoSources (testTimes.row 1 1) okResult bracketFeed 0 0 [] ↔
      (∀ entry ∈ bracketFeed.entries, EntryNormalizable bracketFeeds entry)
        ∧ ¬ MaxAgeRaises bracketFeeds okResult.headers :=
  feed_kept_iff bracketFeeds twoSources (testTimes.row 1 1) okResult bracketFeed 0 0 []
    (by decide) rfl (by decide)

end Feedcast
