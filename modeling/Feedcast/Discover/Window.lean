/-
  Feedcast.Discover.Window — the window of the feed and that of the classifier
  (`api/v1/endpoints/stories.py`, `services/classify.py`).

  Both look back over the same number of hours, at different columns.  The feed
  asks when a story was published, and takes the publisher's word for it; the
  classifier asks when it was fetched:

    • `shownRateable_at` — when an unrated row that the feed can show is one that
      the classifier can rate,
    • `shownRateable_iff` — at one time, and at all times,
    • `FellBehind.dropped` — a row left behind is not taken up again,
    • `datedAhead_unrateable` — a story dated two days ahead.
-/
import Feedcast.Api.Stories
import Feedcast.Carousels.OneCity
import Feedcast.Ingest.TickDedupe
import Feedcast.Polling.World
import Feedcast.Services.Classify

namespace Feedcast

open Feedcast.Lib

/-! ## §1. The property. -/

/-- The rows that both queries range over. -/
def joinedRows (db : Db) : List StoryRow := db.articles.filterMap (joinSource db)

def windowStart (settings : Settings) (now : Time) : Time := now - hours settings.storyWindowHours

/-- Not rated yet, and within the retry budget. -/
def Article.Unrated (settings : Settings) (article : Article) : Prop :=
  article.emotionalSalience = none
    ∧ (article.categoryAttempts : Int) < settings.classifyMaxAttempts

/-- **What the feed can show, the classifier can still rate.** -/
def ShownRateable (settings : Settings) (db : Db) (now : Time) (row : StoryRow) : Prop :=
  ∀ query, row ∈ windowRows settings db query now → row.article.Unrated settings →
    row ∈ unclassifiedRows settings db now

/-- Fetched before the window opens, and published, as its feed says, after. -/
def FellBehind (settings : Settings) (now : Time) (article : Article) : Prop :=
  article.fetchedAt < windowStart settings now
    ∧ ∃ published ∈ article.publishedAt, windowStart settings now ≤ published

/-- Published, as its feed says, before it was fetched. -/
def PublishedFirst (article : Article) : Prop :=
  ∀ published ∈ article.publishedAt, published ≤ article.fetchedAt

/-! ## §2. The two queries. -/

section Queries

variable {settings : Settings} {db : Db} {now : Time} {row : StoryRow}

theorem mem_windowRows {query : StoriesQuery} :
    row ∈ windowRows settings db query now ↔
      row ∈ joinedRows db ∧ windowStart settings now ≤ row.article.occurredAt
        ∧ query.selects row := by
  unfold windowRows
  rw [List.mem_filter, Bool.and_eq_true, decide_eq_true_eq]
  exact Iff.rfl

theorem mem_unclassifiedRows :
    row ∈ unclassifiedRows settings db now ↔
      row ∈ joinedRows db ∧ row.article.Unrated settings
        ∧ windowStart settings now ≤ row.article.fetchedAt := by
  unfold unclassifiedRows
  rw [List.mem_filter, decide_eq_true_eq]
  exact and_congr_right fun _ => and_assoc.symm

/-- A row in the window of the feed and not in the classifier's has fallen
behind. -/
theorem fellBehind_iff {article : Article} :
    FellBehind settings now article ↔
      article.fetchedAt < windowStart settings now
        ∧ windowStart settings now ≤ article.occurredAt := by
  unfold FellBehind Article.occurredAt
  refine and_congr_right fun hfetched => ?_
  cases article.publishedAt with
  -- without a date the feed falls back on the fetch, as the classifier does
  | none => simp [hfetched]
  | some published => simp

/-- **When an unrated row that the feed can show is one the classifier can rate.** -/
theorem shownRateable_at (hrow : row ∈ joinedRows db) :
    ShownRateable settings db now row ↔
      (row.article.Unrated settings → ¬ FellBehind settings now row.article) := by
  constructor
  · intro h hunrated hbehind
    obtain ⟨hfetched, hoccurred⟩ := fellBehind_iff.mp hbehind
    -- shown by the plain query, and no longer in the backlog of the same moment
    have hshown : row ∈ windowRows settings db {} now := mem_windowRows.mpr ⟨hrow, hoccurred, rfl⟩
    obtain ⟨-, -, hrateable⟩ := mem_unclassifiedRows.mp (h {} hshown hunrated)
    exact absurd hrateable (not_le.mpr hfetched)
  · intro h query hshown hunrated
    obtain ⟨-, hoccurred, -⟩ := mem_windowRows.mp hshown
    refine mem_unclassifiedRows.mpr ⟨hrow, hunrated, not_lt.mp ?_⟩
    intro hfetched
    exact h hunrated (fellBehind_iff.mpr ⟨hfetched, hoccurred⟩)

/-- A row published first never falls behind, and no other is safe from it: its
time comes when the window opens at its publication. -/
theorem publishedFirst_iff {article : Article} :
    PublishedFirst article ↔ ∀ now, ¬ FellBehind settings now article := by
  constructor
  · intro h now hbehind
    obtain ⟨hfetched, published, hpublished, hopen⟩ := hbehind
    -- in the window by its own date, so by the date it was fetched on too
    exact absurd (le_trans hopen (h published hpublished)) (not_le.mpr hfetched)
  · -- the time at which the window opens as the story is said to appear
    intro h published hpublished
    refine not_lt.mp ?_
    intro hlate
    have hopen : windowStart settings (published + hours settings.storyWindowHours)
        = published := add_sub_cancel_right _ _
    refine h (published + hours settings.storyWindowHours) ⟨?_, published, hpublished, ?_⟩
    · rw [hopen]
      exact hlate
    · rw [hopen]

/-- A row left behind is not taken up again, whatever the database has become. -/
theorem FellBehind.dropped (h : FellBehind settings now row.article) {later : Time}
    (hlater : now ≤ later) (db : Db) : row ∉ unclassifiedRows settings db later := by
  intro hmem
  obtain ⟨-, -, hfetched⟩ := mem_unclassifiedRows.mp hmem
  have hopens : windowStart settings now ≤ windowStart settings later :=
    sub_le_sub_right hlater _
  exact absurd (le_trans hopens hfetched) (not_le.mpr h.1)

end Queries

/-! ## §3. At one time, and at all times. -/

/-- **WHAT THE FEED CAN SHOW, THE CLASSIFIER CAN STILL RATE, EXACTLY IF IT HAS NOT
FALLEN BEHIND**: at the time of the request, and at every time exactly if the row
was published first. -/
theorem shownRateable_iff {settings : Settings} {db : Db} {row : StoryRow}
    (hrow : row ∈ joinedRows db) :
    (∀ now, ShownRateable settings db now row ↔
        (row.article.Unrated settings → ¬ FellBehind settings now row.article))
      ∧ ((∀ now, ShownRateable settings db now row) ↔
          (row.article.Unrated settings → PublishedFirst row.article)) := by
  -- at one time first, then at every time
  have hat : ∀ now, ShownRateable settings db now row ↔
      (row.article.Unrated settings → ¬ FellBehind settings now row.article) :=
    fun _ => shownRateable_at hrow
  have hfirst : PublishedFirst row.article ↔ ∀ now, ¬ FellBehind settings now row.article :=
    publishedFirst_iff
  refine ⟨hat, ?_⟩
  rw [hfirst]
  constructor
  · intro h hunrated now
    exact (hat now).mp (h now) hunrated
  · intro h now
    exact (hat now).mpr fun hunrated => h hunrated now

/-- A story that was published as it was fetched can be rated whenever it shows. -/
theorem shownRateable_iff_twoCities :
    ∃ row ∈ joinedRows twoCities, ∀ now, ShownRateable defaultSettings twoCities now row := by
  obtain ⟨row, hrow, hfirst⟩ : ∃ row ∈ joinedRows twoCities,
      ∀ published ∈ row.article.publishedAt, published ≤ row.article.fetchedAt := by
    decide +kernel
  exact ⟨row, hrow, (shownRateable_iff hrow).2.mpr fun _ => hfirst⟩

/-! ## §4. A story dated ahead. -/

/-- The entry, dated two days after it is fetched. -/
def datedAhead : Platform :=
  asciiPlatform fun _ =>
    .ok { version := "rss20".toList, bozo := false, bozoException := []
          entries := [{ drainageEntry with
            publishedParsed := some
              { year := 1970, month := 1, day := 3, hour := 0, minute := 0, second := 0 } }] }

/-- A tick that stores it. -/
def datedAheadTick : List WorldAction :=
  let targets := [(testTimes.row 1 1).target, (testTimes.row 2 1).target]
  let page := (fetchedAt 1).fetched
  [.beginTick 0 targets, .pass 0 (.respond 0 0 page), .pass 0 (.respond 1 0 page),
    .pass 0 .startPersist,
    .pass 0 .openNext, .pass 0 (.parse calm), .pass 0 (.insertRow 0), .pass 0 .finishInsert,
    .pass 0 .commit]

/-- A day later the feed still shows it, and the classifier passes it over. -/
theorem datedAhead_unrateable :
    ∃ w, Run (World.step datedAhead defaultSettings) (World.start twoSources) datedAheadTick w
      ∧ ∃ row ∈ joinedRows w.db, row ∈ windowRows defaultSettings w.db {} (hours 25)
        ∧ ¬ ShownRateable defaultSettings w.db (hours 25) row := by
  -- evaluated once, an hour after the backlog has closed on it
  have hok : ∃ w ∈ exec (World.step datedAhead defaultSettings) (World.start twoSources)
      datedAheadTick,
      ∃ row ∈ joinedRows w.db, row ∈ windowRows defaultSettings w.db {} (hours 25)
        ∧ (row.article.emotionalSalience = none
          ∧ (row.article.categoryAttempts : Int) < defaultSettings.classifyMaxAttempts)
        ∧ row ∉ unclassifiedRows defaultSettings w.db (hours 25) := by
    decide +kernel
  obtain ⟨w, hrun, row, hrow, hshown, hunrated, hpassed⟩ := hok
  refine ⟨w, run_iff_exec.mpr hrun, row, hrow, hshown, ?_⟩
  intro h
  exact hpassed (h {} hshown hunrated)

end Feedcast
