/-
  Feedcast.Api.Stories — the feed (`api/v1/endpoints/stories.py`).

  The query returns the rows of the window in no order.  `listStories` is the
  handler from there on, so its rows are an argument: `windowRows` says which
  they are, and the database may hand them over in any order.
-/
import Feedcast.Services.Carousel

namespace Feedcast

/-! ## §1. The query. -/

/-- The parameters of `GET /stories`. -/
structure StoriesQuery where
  category : Option (List Category) := none
  cityId : Option Int := none
  sort : StorySort := .recent
  limit : Option Int := none
  offset : Nat := 0
  limit_pos : ∀ n ∈ limit, 1 ≤ n := by decide

/-- The same query from another offset. -/
def StoriesQuery.at (query : StoriesQuery) (offset : Nat) : StoriesQuery :=
  { query with offset := offset }

/-- `_occurred_at`. -/
def Article.occurredAt (article : Article) : Time := article.publishedAt.getD article.fetchedAt

/-- The filters of the query.  An empty list of categories filters nothing. -/
def StoriesQuery.selects (query : StoriesQuery) (row : StoryRow) : Bool :=
  (match query.category with
    | none | some [] => true
    | some categories => row.article.category.any fun c => c ∈ categories.map (·.value))
  && (match query.cityId with
    | none => true
    | some cityId => (row.source.cityId : Int) == cityId)

/-- The rows the query returns, in table order. -/
def windowRows (settings : Settings) (db : Db) (query : StoriesQuery) (now : Time) :
    List StoryRow :=
  let windowStart := now - hours settings.storyWindowHours
  (db.articles.filterMap (joinSource db)).filter fun row =>
    decide (windowStart ≤ row.article.occurredAt) && query.selects row

/-! ## §2. The admission tests. -/

/-- The content type is one the enum knows, and is not discoverable. -/
def undiscoverable (settings : Settings) (article : Article) : Bool :=
  match article.contentType.bind ContentType.ofValue with
  | some kind => kind ∉ settings.discoverableContentTypes
  | none => false

/-- `_hidden`. -/
def hidden (settings : Settings) (article : Article) (source : Source) : Bool :=
  if undiscoverable settings article then true
  else
    match article.isCityRelevant with
    | none => !deriveIsLocal article source
    -- dropped only on a confident no
    | some true => false
    | some false => settings.classifyConfidenceFloor ≤ article.relevanceConfidence.getD 0

/-! ## §3. The page. -/

/-- `stories.sort(key=…, reverse=True)`, on the rows the stories are of. -/
def inOrder (settings : Settings) (sort : StorySort) (rows : List StoryRow) : List StoryRow :=
  match sort with
  | .recent => sortedDesc (fun row => sortKey settings row.rankInputs) rows
  | .engagement => sortedDesc (fun row => engagementSortKey settings row.rankInputs) rows

/-- `xs[start:stop]`; a negative `stop` counts from the end. -/
def slice {α : Type} (xs : List α) (start : Nat) (stop : Int) : List α :=
  (xs.take (if stop < 0 then (stop + xs.length).toNat else stop.toNat)).drop start

/-- The limit in force.  A limit is at least 1, so `limit or default` is the
default just when there is none. -/
def StoriesQuery.effectiveLimit (settings : Settings) (query : StoriesQuery) : Int :=
  min (query.limit.getD settings.storyDefaultLimit) settings.storyMaxLimit

/-- `list_stories`, from the rows the database returned. -/
def listStories (P : Platform) (settings : Settings) (db : Db) (query : StoriesQuery)
    (rows : List StoryRow) : List StoryRead :=
  let stories := inOrder settings query.sort
    (rows.filter fun row => !hidden settings row.article row.source)
  let page := (slice stories query.offset (query.offset + query.effectiveLimit settings)).map
    (projectStory P settings)
  let states := articleStates db (page.map (·.id))
  page.map fun story => { story with carouselState := states story.id }

end Feedcast
