/-
  Feedcast.Discover.Paging — the pages of `GET /stories`.

  The window is loaded in no order and sorted afresh for every page.  Both sort
  keys end in the article id, so rows with distinct ids have distinct keys, and
  every request sorts them alike.

    • `Feed` — the stories the feed admits, each once, in descending order,
    • `listStories_page` — every request is answered by a page of it,
    • `stories_pages_partition` — so the pages in turn are the whole feed.
-/
import Feedcast.Api.Stories
import Feedcast.Carousels.OneCity
import Feedcast.Lib.Paging

namespace Feedcast

open Feedcast.Lib

/-! ## §1. The property. -/

/-- **A story the feed admits**: stored, in the window, selected by the filters
and not hidden. -/
structure Admitted (settings : Settings) (db : Db) (query : StoriesQuery) (now : Time)
    (row : StoryRow) : Prop where
  stored : row.article ∈ db.articles
  joined : joinSource db row.article = some row
  recent : now - hours settings.storyWindowHours ≤ row.article.occurredAt
  selected : query.selects row
  shown : ¬ hidden settings row.article row.source

/-- Which of two stories a sort puts first. -/
def Before (settings : Settings) (sort : StorySort) (a b : StoryRow) : Prop :=
  match sort with
  | .recent => sortKey settings b.rankInputs < sortKey settings a.rankInputs
  | .engagement => engagementSortKey settings b.rankInputs < engagementSortKey settings a.rankInputs

/-- **The feed of a query.** -/
structure Feed (settings : Settings) (db : Db) (query : StoriesQuery) (now : Time)
    (feed : List StoryRow) : Prop where
  admitted : ∀ row, row ∈ feed ↔ Admitted settings db query now row
  once : (feed.map (·.article.id)).Nodup
  descending : feed.Pairwise (Before settings query.sort)

/-- A story as a page shows it, with the badge of the decks that hold it. -/
def storyCard (P : Platform) (settings : Settings) (db : Db) (row : StoryRow) : StoryRead :=
  { projectStory P settings row with
    carouselState := articleStates db [row.article.id] row.article.id }

/-- **The pages of a query are those of one feed.** -/
structure Paged (P : Platform) (settings : Settings) (db : Db) (query : StoriesQuery) (now : Time)
    (feed : List StoryRow) : Prop where
  /-- Any page, for any order of the rows. -/
  each : ∀ offset rows, rows.Perm (windowRows settings db query now) →
    listStories P settings db (query.at offset) rows
      = page (query.effectiveLimit settings).toNat offset (feed.map (storyCard P settings db))
  /-- The pages in turn, each for an order of its own. -/
  inTurn : ∀ answers : Nat → List StoryRow,
    (∀ k, (answers k).Perm (windowRows settings db query now)) →
    ∀ n : Nat, (feed.length : Int) ≤ n * query.effectiveLimit settings →
      (List.range n).flatMap (fun k => listStories P settings db
          (query.at (k * (query.effectiveLimit settings).toNat)) (answers k))
        = feed.map (storyCard P settings db)

/-! ## §2. Rows. -/

/-- What the query returns and the admission tests let through. -/
def shownRows (settings : Settings) (db : Db) (query : StoriesQuery) (now : Time) :
    List StoryRow :=
  (windowRows settings db query now).filter fun row => !hidden settings row.article row.source

theorem shownRows_ids {settings : Settings} {db : Db} {query : StoriesQuery} {now : Time}
    (hids : (db.articles.map (·.id)).Nodup) :
    ((shownRows settings db query now).map (·.article.id)).Nodup :=
  (joined_ids hids _).sublist (List.filter_sublist.map _)

theorem mem_shownRows {settings : Settings} {db : Db} {query : StoriesQuery} {now : Time}
    {row : StoryRow} :
    row ∈ shownRows settings db query now ↔ Admitted settings db query now row := by
  unfold shownRows windowRows
  simp only [List.mem_filter, List.mem_filterMap, Bool.and_eq_true, decide_eq_true_iff,
    Bool.not_eq_true']
  -- the clauses of the query, one for each field
  constructor
  · intro h
    obtain ⟨⟨⟨article, hmem, hjoin⟩, hrecent, hselected⟩, hshown⟩ := h
    obtain rfl := joinSource_article hjoin
    exact ⟨hmem, hjoin, hrecent, hselected, by rw [hshown]; exact Bool.false_ne_true⟩
  · intro h
    exact ⟨⟨⟨row.article, h.stored, h.joined⟩, h.recent, h.selected⟩, by simpa using h.shown⟩

/-! ## §3. The order. -/

/-- Rows of distinct articles have distinct keys under either sort. -/
theorem sortKeys_nodup (settings : Settings) {rows : List StoryRow}
    (hids : (rows.map (·.article.id)).Nodup) :
    (rows.map fun row => sortKey settings row.rankInputs).Nodup := by
  refine List.Nodup.of_map (fun key => (ofLex (ofLex key).2).2) ?_
  rw [List.map_map]
  exact hids

theorem engagementSortKeys_nodup (settings : Settings) {rows : List StoryRow}
    (hids : (rows.map (·.article.id)).Nodup) :
    (rows.map fun row => engagementSortKey settings row.rankInputs).Nodup := by
  refine List.Nodup.of_map (fun key => (ofLex (ofLex key).2).2) ?_
  rw [List.map_map]
  exact hids

theorem inOrder_perm (settings : Settings) (sort : StorySort) (rows : List StoryRow) :
    (inOrder settings sort rows).Perm rows := by
  cases sort with
  | recent => exact sortedDesc_perm _ rows
  | engagement => exact sortedDesc_perm _ rows

theorem inOrder_descending {settings : Settings} (sort : StorySort) {rows : List StoryRow}
    (hids : (rows.map (·.article.id)).Nodup) :
    (inOrder settings sort rows).Pairwise (Before settings sort) := by
  cases sort with
  | recent => exact sortedDesc_strict (sortKeys_nodup settings hids)
  | engagement => exact sortedDesc_strict (engagementSortKeys_nodup settings hids)

/-- **The order does not depend on the order the rows come in.** -/
theorem inOrder_congr {settings : Settings} (sort : StorySort) {rows rows' : List StoryRow}
    (hids : (rows.map (·.article.id)).Nodup) (hperm : rows.Perm rows') :
    inOrder settings sort rows = inOrder settings sort rows' := by
  cases sort with
  | recent => exact sortedDesc_congr (sortKeys_nodup settings hids) hperm
  | engagement => exact sortedDesc_congr (engagementSortKeys_nodup settings hids) hperm

/-! ## §4. One page. -/

/-- A slice of a positive number of elements is a page. -/
theorem slice_page {α : Type} (xs : List α) (offset : Nat) {limit : Int} (h : 0 ≤ limit) :
    slice xs offset (offset + limit) = page limit.toNat offset xs := by
  obtain ⟨size, rfl⟩ := Int.eq_ofNat_of_zero_le h
  have hstop : ¬ ((offset : Int) + (size : Nat) < 0) := by omega
  have htoNat : ((offset : Int) + (size : Nat)).toNat = offset + size := by omega
  unfold slice page
  rw [if_neg hstop, htoNat, List.drop_take, Nat.add_sub_cancel_left, Int.toNat_natCast]

/-- The badge of a story is the same on any page that shows it. -/
theorem articleStates_of_mem {db : Db} {articleIds : List Str} {id : Str} (h : id ∈ articleIds) :
    articleStates db articleIds id = articleStates db [id] id := by
  unfold articleStates
  rw [if_pos h, if_pos (List.mem_singleton_self id)]

/-- **Every request is answered by a page of the one feed**, whatever order the
database returns its rows in. -/
theorem listStories_page (P : Platform) {settings : Settings} {db : Db} {query : StoriesQuery}
    {now : Time} (hids : (db.articles.map (·.id)).Nodup)
    (hlimit : 1 ≤ query.effectiveLimit settings) {rows : List StoryRow}
    (hrows : rows.Perm (windowRows settings db query now)) :
    listStories P settings db query rows
      = page (query.effectiveLimit settings).toNat query.offset
          ((inOrder settings query.sort (shownRows settings db query now)).map
            (storyCard P settings db)) := by
  have hshown : (rows.filter fun row => !hidden settings row.article row.source).Perm
      (shownRows settings db query now) := hrows.filter _
  have hsame := @inOrder_congr settings query.sort _ _
    ((hshown.map _).nodup_iff.mpr (shownRows_ids hids)) hshown
  unfold listStories
  simp only [hsame, slice_page _ _ (Int.le_of_lt (Int.lt_of_lt_of_le Int.zero_lt_one hlimit))]
  rw [← map_page, List.map_map]
  refine List.map_congr_left ?_
  intro row hrow
  -- the story is on the page, so its badge has been asked for
  have hmem : row.article.id ∈ ((page (query.effectiveLimit settings).toNat query.offset
      (inOrder settings query.sort (shownRows settings db query now))).map
        (projectStory P settings)).map (·.id) :=
    List.mem_map.mpr ⟨_, List.mem_map.mpr ⟨row, hrow, rfl⟩, rfl⟩
  unfold storyCard
  rw [← articleStates_of_mem hmem]
  rfl

/-! ## §5. All pages. -/

theorem inOrder_feed {settings : Settings} {db : Db} (query : StoriesQuery) (now : Time)
    (hids : (db.articles.map (·.id)).Nodup) :
    Feed settings db query now
      (inOrder settings query.sort (shownRows settings db query now)) where
  admitted row := by
    rw [(inOrder_perm settings query.sort _).mem_iff]
    exact mem_shownRows
  once := ((inOrder_perm settings query.sort _).map _).nodup_iff.mpr (shownRows_ids hids)
  descending := inOrder_descending query.sort (shownRows_ids hids)

/-- **THE PAGES OF A QUERY PARTITION ITS FEED.** -/
theorem stories_pages_partition (P : Platform) (settings : Settings) (db : Db)
    (query : StoriesQuery) (now : Time) (hids : (db.articles.map (·.id)).Nodup)
    (hlimit : 1 ≤ query.effectiveLimit settings) :
    ∃ feed, Feed settings db query now feed ∧ Paged P settings db query now feed := by
  -- whatever order the rows come in, a page is cut out of the one sorted list
  have hpage : ∀ offset rows, rows.Perm (windowRows settings db query now) →
      listStories P settings db (query.at offset) rows
        = page (query.effectiveLimit settings).toNat offset
            ((inOrder settings query.sort (shownRows settings db query now)).map
              (storyCard P settings db)) := by
    intro offset rows hrows
    exact @listStories_page P settings db (query.at offset) now hids hlimit rows hrows
  refine ⟨_, inOrder_feed query now hids, ⟨hpage, ?_⟩⟩
  intro answers hanswers n hn
  simp only [fun k => hpage (k * (query.effectiveLimit settings).toNat) (answers k) (hanswers k)]
  -- pages of that size cover the list once the last one reaches its end
  refine pages_all ?_
  rw [List.length_map]
  have hsize := Int.toNat_of_nonneg (Int.le_of_lt (Int.lt_of_lt_of_le Int.zero_lt_one hlimit))
  rw [← hsize] at hn
  exact_mod_cast hn

/-- The stories of two cities, judged to be about them. -/
def judgedCities : Db :=
  { twoCities with
    articles := twoCities.articles.map fun article => { article with isCityRelevant := some true } }

example : (listStories feedless defaultSettings judgedCities { limit := some 1, offset := 1 }
    (windowRows defaultSettings judgedCities {} (seconds 1790000000))).map (·.id)
      = [drainageId] := by
  decide +kernel

/-- One story a page. -/
theorem stories_pages_partition_judgedCities :
    ∃ feed, Feed defaultSettings judgedCities { limit := some 1 } (seconds 1790000000) feed
      ∧ Paged feedless defaultSettings judgedCities { limit := some 1 } (seconds 1790000000) feed :=
  stories_pages_partition feedless defaultSettings judgedCities { limit := some 1 }
    (seconds 1790000000) (by decide +kernel) (by decide +kernel)

end Feedcast
