/-
  Feedcast.Db.Models — the tables.

  One structure per mapped class of `db/models/`, with the columns the modelled
  functions read or write.  `created_at` and `updated_at` are database stamps
  no modelled function reads, and are left out.  A timestamp is nullable where
  its column is.
-/
import Feedcast.Core.Sensitivity
import Feedcast.Lib.Table
import Mathlib.Data.Rat.Defs

namespace Feedcast

/-! ## §1. The rows. -/

/-- A city a newsroom covers, and the unit sources are onboarded under. -/
structure City where
  id : Nat
  name : Str
  slug : Str
  state : Option Str
  archivedAt : Option Time
  deriving Repr, DecidableEq

/-- A polled feed. -/
structure Source where
  id : Nat
  name : Str
  feedUrl : Str
  language : Str
  enabled : Bool
  publisherGroup : Str
  cityId : Nat
  isLocalOutlet : Bool
  fetchIntervalMinutes : Nat
  etag : Option Str
  lastModified : Option Str
  cacheMaxAgeSeconds : Option Nat
  lastFetchedAt : Option Time
  consecutiveFailures : Nat
  lastSuccessAt : Option Time
  lastError : Option Str
  lastErrorAt : Option Time
  archivedAt : Option Time
  deriving Repr, DecidableEq

/-- One member of `articles.images`; the feed declares no credit or caption. -/
structure Image where
  url : Option Str
  width : Option Int
  height : Option Int
  credit : Option Str
  caption : Option Str
  deriving Repr, DecidableEq

/-- What the feed said, before unescaping and stripping. -/
structure RawEntry where
  title : Str
  link : Str
  summary : Option Str
  categoryRaw : Option Str
  deriving Repr, DecidableEq

/-- The columns ingest sets: a Core insert row. -/
structure ArticleRow where
  id : Str
  sourceId : Nat
  url : Str
  canonicalUrl : Str
  title : Str
  summary : Option Str
  publishedAt : Option Time
  language : Str
  feedPosition : Option Nat
  images : List Image
  contentHash : Str
  city : Option Str
  cityId : Option Nat
  sensitivityFlags : List Str
  raw : RawEntry
  deriving Repr, DecidableEq

/-- A stored article: the ingested columns, the arrival stamp, and the columns
the classifier fills in later. -/
structure Article extends ArticleRow where
  fetchedAt : Time
  category : Option Str := none
  isCityRelevant : Option Bool := none
  relevanceConfidence : Option ℚ := none
  contentType : Option Str := none
  emotionalSalience : Option Str := none
  audienceBreadth : Option Str := none
  impact : Option Str := none
  novelty : Option Str := none
  humanInterest : Option Str := none
  timeliness : Option Str := none
  visualPotential : Option Str := none
  categoryAttempts : Nat := 0
  deriving Repr, DecidableEq

/-- `SlideKind`. -/
inductive SlideKind where
  | intro
  | story
  | cta
  deriving Repr, DecidableEq

/-- One deck. -/
structure Carousel where
  id : Nat
  cityId : Nat
  createdAt : Time
  lastEditedAt : Option Time
  lastDownloadedAt : Option Time
  deriving Repr, DecidableEq

/-- One slide, as the deck currently holds it. -/
structure CarouselSlide where
  id : Nat
  carouselId : Nat
  position : Nat
  kind : SlideKind
  articleId : Option Str
  text : Str
  clipped : Bool
  deriving Repr, DecidableEq

/-- What the editor sees of a slide, and what a slide row keeps of it. -/
structure SlideContent where
  kind : SlideKind
  storyId : Option Str
  text : Str
  clipped : Bool
  deriving Repr, DecidableEq

def CarouselSlide.content (row : CarouselSlide) : SlideContent where
  kind := row.kind
  storyId := row.articleId
  text := row.text
  clipped := row.clipped

/-- Which order the feed was in. -/
inductive StorySort where
  | recent
  | engagement
  deriving Repr, DecidableEq

/-- One row per story the editor put in a carousel. -/
structure Selection where
  id : Nat
  articleId : Str
  engagement : Option ℚ
  score : ℚ
  scoreVersion : Option Nat
  sort : Option StorySort
  carouselId : Option Nat
  deriving Repr, DecidableEq

/-- `SCORE_VERSION`. -/
def currentScoreVersion : Nat := 3

/-- The stored row of an insert: unset columns take their defaults. -/
def ArticleRow.insert (now : Time) (row : ArticleRow) : Article :=
  { row with fetchedAt := now }

/-! ## §2. The database. -/

/-- The tables, and the sequences their integer keys are drawn from. -/
structure Db where
  cities : List City := []
  sources : List Source := []
  articles : List Article := []
  carousels : List Carousel := []
  slides : List CarouselSlide := []
  selections : List Selection := []
  nextCity : Nat := 1
  nextSource : Nat := 1
  nextCarousel : Nat := 1
  nextSlide : Nat := 1
  nextSelection : Nat := 1
  deriving Repr, DecidableEq

/-- The database after the migrations. -/
def Db.empty : Db := {}

def Db.getCity (db : Db) (id : Nat) : Option City := Lib.getRow City.id db.cities id

def Db.getSource (db : Db) (id : Nat) : Option Source := Lib.getRow Source.id db.sources id

theorem Db.getSource_self {db : Db} {id : Nat} {source : Source}
    (h : db.getSource id = some source) : db.getSource source.id = some source := by
  rw [(Lib.getRow_some Source.id h).2]
  exact h

def Db.getArticle (db : Db) (id : Str) : Option Article :=
  Lib.getRow (fun article => article.id) db.articles id

def Db.getCarousel (db : Db) (id : Nat) : Option Carousel :=
  Lib.getRow Carousel.id db.carousels id

def Db.putCity (db : Db) (city : City) : Db :=
  { db with cities := Lib.setRow City.id city db.cities }

def Db.putSource (db : Db) (source : Source) : Db :=
  { db with sources := Lib.setRow Source.id source db.sources }

def Db.putCarousel (db : Db) (carousel : Carousel) : Db :=
  { db with carousels := Lib.setRow Carousel.id carousel db.carousels }

end Feedcast
