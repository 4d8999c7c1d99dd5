/-
  Feedcast.Services.Classify — one pass of the classifier
  (`services/classify.py`).

  A pass is two sessions with the call between them: `loadUnclassified` takes a
  batch, and `finishPass` calls and persists.  Others may commit in between.
-/
import Feedcast.Services.Llm
import Feedcast.Services.Stories

namespace Feedcast

open Feedcast.Lib

/-! ## §1. The batch. -/

/-- One candidate: its id and what the prompt says of it. -/
structure Candidate where
  articleId : Str
  item : PromptItem
  deriving Repr, DecidableEq

/-- The rows the query of `load_unclassified` ranges over, in table order. -/
def unclassifiedRows (settings : Settings) (db : Db) (now : Time) : List StoryRow :=
  let windowStart := now - hours settings.storyWindowHours
  (db.articles.filterMap (joinSource db)).filter fun row =>
    row.article.emotionalSalience = none
      ∧ (row.article.categoryAttempts : Int) < settings.classifyMaxAttempts
      ∧ windowStart ≤ row.article.fetchedAt

def StoryRow.candidate (row : StoryRow) : Candidate where
  articleId := row.article.id
  item := { title := row.article.title, summary := row.article.summary
            feedCity := some row.city.name }

/-- `load_unclassified`, from the rows of the query: oldest first, a batch of
them.  Rows of one arrival come in the order the database has them. -/
def loadUnclassified (settings : Settings) (rows : List StoryRow) : List Candidate :=
  ((rows.insertionSort fun a b => a.article.fetchedAt ≤ b.article.fetchedAt).take
    settings.classifyBatchSize).map (·.candidate)

/-! ## §2. The labels. -/

/-- `setattr(article, name, value)`. -/
def Article.setDimension (article : Article) (name : EngagementDimension) (value : Str) : Article :=
  match name with
  | .emotionalSalience => { article with emotionalSalience := some value }
  | .audienceBreadth => { article with audienceBreadth := some value }
  | .impact => { article with impact := some value }
  | .novelty => { article with novelty := some value }
  | .humanInterest => { article with humanInterest := some value }
  | .timeliness => { article with timeliness := some value }
  | .visualPotential => { article with visualPotential := some value }

/-- What `persist_categories` does to one row: an attempt more, and the result
if there is one. -/
def Article.attempted (article : Article) (result : Option TitleClassification) : Article :=
  let article := { article with categoryAttempts := article.categoryAttempts + 1 }
  match result with
  | none => article
  | some result =>
      engagementDimensions.foldl
        (fun article name => article.setDimension name (result.level name).value)
        { article with
          category := some result.category.value
          contentType := some result.contentType.value
          isCityRelevant := some result.isCityRelevant
          relevanceConfidence := some (clampUnit result.confidence) }

def Db.putArticle (db : Db) (article : Article) : Db :=
  { db with articles := setRow (fun a : Article => a.id) article db.articles }

/-- One round of the loop of `persist_categories`. -/
def persistOne (assigned : List (Str × TitleClassification)) (db : Db) (articleId : Str) : Db :=
  match db.getArticle articleId with
  -- deleted mid-pass
  | none => db
  | some article => db.putArticle (article.attempted (Dict.get assigned articleId))

/-- `persist_categories`. -/
def persistCategories (db : Db) (assigned : List (Str × TitleClassification))
    (attemptedIds : List Str) : Db :=
  attemptedIds.foldl (persistOne assigned) db

/-! ## §3. The pass. -/

/-- `batch[index]`, of an index `classify_titles` has let through. -/
def candidateAt (batch : List Candidate) (index : Int) : Option Candidate :=
  if 0 ≤ index then batch[index.toNat]? else none

/-- The results by article id; a failed call leaves none. -/
def assignedResults (settings : Settings) (validate : Str → Raises (List TitleClassification))
    (client : Nat → Str → ClientReply) (batch : List Candidate) :
    List (Str × TitleClassification) :=
  match classifyTitles settings validate client (batch.map (·.item)) with
  | .error _ => []
  | .ok byIndex => Dict.ofPairs (byIndex.filterMap fun entry =>
      (candidateAt batch entry.1).map fun candidate => (candidate.articleId, entry.2))

/-- `run_classify_pass` from the call on, for a batch that is not empty. -/
def finishPass (settings : Settings) (validate : Str → Raises (List TitleClassification))
    (client : Nat → Str → ClientReply) (db : Db) (batch : List Candidate) : Db :=
  persistCategories db (assignedResults settings validate client batch) (batch.map (·.articleId))

end Feedcast
