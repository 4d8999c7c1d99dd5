/-
  Feedcast.Services.Stories — the projection of an article that the feed and the
  carousel share (`services/stories.py`, `schemas/story.py`).
-/
import Feedcast.Core.Text
import Feedcast.Services.Rank

namespace Feedcast

/-! ## §1. The row. -/

/-- An article joined with its source and the source's city. -/
structure StoryRow where
  article : Article
  source : Source
  city : City
  deriving Repr, DecidableEq

/-- An article joined with its source, and the source's city loaded along. -/
def joinSource (db : Db) (article : Article) : Option StoryRow := do
  let source ← db.getSource article.sourceId
  let city ← db.getCity source.cityId
  return { article := article, source := source, city := city }

/-- The joined row of an article id.  The keys that lead to it are foreign keys. -/
def storyRow (db : Db) (storyId : Str) : Option StoryRow :=
  (db.getArticle storyId).bind (joinSource db)

/-- What a joined row holds. -/
theorem joinSource_eq_some {db : Db} {article : Article} {row : StoryRow} :
    joinSource db article = some row ↔ row.article = article
      ∧ db.getSource article.sourceId = some row.source
      ∧ db.getCity row.source.cityId = some row.city := by
  simp only [joinSource, Option.bind_eq_bind, Option.bind_eq_some_iff]
  constructor
  · intro ⟨source, hsource, city, hcity, hrow⟩
    cases hrow
    exact ⟨rfl, hsource, hcity⟩
  · intro ⟨harticle, hsource, hcity⟩
    exact ⟨row.source, hsource, row.city, hcity, by rw [← harticle]; rfl⟩

theorem joinSource_article {db : Db} {article : Article} {row : StoryRow}
    (h : joinSource db article = some row) : row.article = article :=
  (joinSource_eq_some.mp h).1

/-- A join gives at most one row for each article. -/
theorem joined_sublist (db : Db) (articles : List Article) :
    ((articles.filterMap (joinSource db)).map (·.article)).Sublist articles := by
  induction articles with
  | nil => exact List.Sublist.refl []
  | cons article articles ih =>
      cases hrow : joinSource db article with
      | none =>
          rw [List.filterMap_cons_none hrow]
          exact ih.cons article
      | some row =>
          rw [List.filterMap_cons_some hrow, List.map_cons, joinSource_article hrow]
          exact ih.cons_cons article

/-- Rows of the join, whichever are selected, are of distinct articles. -/
theorem joined_ids {db : Db} (hids : (db.articles.map (·.id)).Nodup) (p : StoryRow → Bool) :
    (((db.articles.filterMap (joinSource db)).filter p).map (·.article.id)).Nodup := by
  have hrows := (joined_sublist db db.articles).map (·.id)
  rw [List.map_map] at hrows
  exact hids.sublist ((List.filter_sublist.map _).trans hrows)

/-- The city a story belongs to: that of its source. -/
def storyCity (db : Db) (storyId : Str) : Option Nat := do
  let article ← db.getArticle storyId
  let source ← db.getSource article.sourceId
  return source.cityId

/-- What the row of an id holds. -/
theorem storyRow_eq_some {db : Db} {storyId : Str} {row : StoryRow} :
    storyRow db storyId = some row ↔ db.getArticle storyId = some row.article
      ∧ db.getSource row.article.sourceId = some row.source
      ∧ db.getCity row.source.cityId = some row.city := by
  unfold storyRow
  rw [Option.bind_eq_some_iff]
  constructor
  · intro ⟨article, harticle, hjoin⟩
    obtain ⟨rfl, hsource, hcity⟩ := joinSource_eq_some.mp hjoin
    exact ⟨harticle, hsource, hcity⟩
  · intro ⟨harticle, hsource, hcity⟩
    exact ⟨row.article, harticle, joinSource_eq_some.mpr ⟨rfl, hsource, hcity⟩⟩

theorem storyRow_id {db : Db} {storyId : Str} {row : StoryRow}
    (h : storyRow db storyId = some row) : row.article.id = storyId :=
  (Lib.getRow_some _ (storyRow_eq_some.mp h).1).2

/-- The city of a row is the stored one. -/
theorem storyRow_getCity {db : Db} {storyId : Str} {row : StoryRow}
    (h : storyRow db storyId = some row) : db.getCity row.city.id = some row.city := by
  obtain ⟨-, -, hcity⟩ := storyRow_eq_some.mp h
  rw [(Lib.getRow_some City.id hcity).2]
  exact hcity

/-- The city of the row is the city of the story. -/
theorem storyRow_city {db : Db} {storyId : Str} {row : StoryRow}
    (h : storyRow db storyId = some row) : storyCity db storyId = some row.city.id := by
  obtain ⟨harticle, hsource, hcity⟩ := storyRow_eq_some.mp h
  have hid : row.city.id = row.source.cityId := (Lib.getRow_some City.id hcity).2
  simp [storyCity, harticle, hsource, hid]

theorem storyCity_congr {db db' : Db} (ha : db'.articles = db.articles)
    (hs : db'.sources = db.sources) (storyId : Str) :
    storyCity db' storyId = storyCity db storyId := by
  simp only [storyCity, Db.getArticle, Db.getSource, ha, hs]

/-! ## §2. The projection. -/

/-- Whether a carousel holds a story now. -/
inductive CarouselState where
  | inDraft
  | downloaded
  deriving Repr, DecidableEq

structure StoryRead where
  id : Str
  title : Str
  summary : Option Str
  url : Str
  publishedAt : Time
  sourceName : Str
  publisherGroup : Str
  city : Option Str
  cityId : Option Nat
  category : Option Str
  score : ℚ
  engagement : Option EngagementRead
  feedPosition : Option Nat
  images : List Image
  sensitivityFlags : List Str
  carouselState : Option CarouselState := none
  deriving DecidableEq

/-- What `project_story` ranks a row by. -/
def StoryRow.rankInputs (row : StoryRow) : RankInputs where
  publishedAt := row.article.publishedAt.getD row.article.fetchedAt
  levels := engagementLevels row.article
  articleId := row.article.id

/-- `derive_is_local`: the provisional answer, before the classifier's. -/
def deriveIsLocal (article : Article) (source : Source) : Bool :=
  source.isLocalOutlet || (article.cityId.isSome && article.cityId == some source.cityId)

/-- `project_story`.  The key it returns along with the story is `sortKey` or
`engagementSortKey` of the row's `rankInputs`, as the caller asks. -/
def projectStory (P : Platform) (settings : Settings) (row : StoryRow) : StoryRead where
  id := row.article.id
  title := row.article.title
  summary := truthy (some (sanitize P row.article.summary (some settings.storySummaryMaxChars)))
  url := row.article.url
  publishedAt := row.rankInputs.publishedAt
  sourceName := row.source.name
  publisherGroup := row.source.publisherGroup
  city := orElse row.article.city (if row.source.isLocalOutlet then some row.city.slug else none)
  cityId := row.article.cityId
  category := row.article.category
  score := articleScore settings row.rankInputs
  engagement := row.rankInputs.levels
  feedPosition := row.article.feedPosition
  images := row.article.images
  sensitivityFlags := row.article.sensitivityFlags

/-- The score as it may be shown: an unrated story has none. -/
def StoryRead.shownScore (story : StoryRead) : Option ℚ :=
  if story.engagement.isSome then some story.score else none

end Feedcast
