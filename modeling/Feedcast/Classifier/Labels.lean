/-
  Feedcast.Classifier.Labels — what a reply of the model does to the rows.

  The prompt numbers the batch, the reply names numbers, and the results travel
  back through two dictionaries to the ids of the rows.  Whatever the reply is,
  each row of the batch ends up with the last result for its own number:

    • `get_assignedResults` — what the two dictionaries come to,
    • `persistCategories_articles` — the loop over the batch, as one update of
      the table,
    • `finishPass_relabels` — hence what a pass leaves of every row.
-/
import Feedcast.Services.Classify

namespace Feedcast

open Feedcast.Lib

/-! ## §1. The property. -/

/-- The columns a pass writes. -/
structure Labels where
  category : Option Str
  contentType : Option Str
  isCityRelevant : Option Bool
  relevanceConfidence : Option ℚ
  level : EngagementDimension → Option Str

def Article.labels (article : Article) : Labels where
  category := article.category
  contentType := article.contentType
  isCityRelevant := article.isCityRelevant
  relevanceConfidence := article.relevanceConfidence
  level := article.dimension

def TitleClassification.labels (result : TitleClassification) : Labels where
  category := some result.category.value
  contentType := some result.contentType.value
  isCityRelevant := some result.isCityRelevant
  relevanceConfidence := some (clampUnit result.confidence)
  level := fun name => some (result.level name).value

/-- The last result for a position in the prompt. -/
def lastAt (results : List TitleClassification) (position : Nat) : Option TitleClassification :=
  results.reverse.find? fun result => result.index = position

/-- **A row that was sent**: one attempt more, and the labels of its result if
there is one. -/
structure Labelled (result : Option TitleClassification) (before after : Article) : Prop where
  ingested : after.toArticleRow = before.toArticleRow
  arrived : after.fetchedAt = before.fetchedAt
  attempts : after.categoryAttempts = before.categoryAttempts + 1
  labels : after.labels = result.elim before.labels (·.labels)

/-- **What a pass leaves of a row**: the last result for its position in the
batch, and nothing of the rows outside it. -/
structure Relabelled (batch : List Candidate) (reply : Option (List TitleClassification))
    (before after : Article) : Prop where
  sent : ∀ i, (batch[i]?).map (·.articleId) = some before.id →
    Labelled (reply.bind fun results => lastAt results i) before after
  untouched : before.id ∉ batch.map (·.articleId) → after = before

/-- What the client's attempts come to: a validated reply, or none. -/
def replyOf (settings : Settings) (validate : Str → Raises (List TitleClassification))
    (client : Nat → Str → ClientReply) (batch : List Candidate) :
    Option (List TitleClassification) :=
  (complete settings validate client (buildPrompt settings (batch.map (·.item)))).toOption

/-! ## §2. One row. -/

/-- The seven levels are all written. -/
theorem attempted_dimension (article : Article) (result : TitleClassification)
    (name : EngagementDimension) :
    (article.attempted (some result)).dimension name = some (result.level name).value := by
  cases name <;> rfl

theorem attempted_labelled (article : Article) (result : Option TitleClassification) :
    Labelled result article (article.attempted result) := by
  cases result with
  | none => exact ⟨rfl, rfl, rfl, rfl⟩
  | some result =>
      refine ⟨rfl, rfl, rfl, ?_⟩
      unfold Article.labels
      rw [show (article.attempted (some result)).dimension
          = fun name => some (result.level name).value from
        funext (attempted_dimension article result)]
      rfl

/-! ## §3. The two dictionaries. -/

/-- A position of the batch is looked up as the last result for it. -/
theorem get_byIndex (results : List TitleClassification) {length i : Nat} (hi : i < length) :
    Dict.get (Dict.ofPairs ((results.filter fun item =>
        0 ≤ item.index ∧ item.index < (length : Int)).map fun item => (item.index, item))) (i : Int)
      = lastAt results i := by
  rw [Dict.get_ofPairs]
  unfold Dict.get getRow lastAt
  rw [← List.map_reverse, ← List.filter_reverse, List.find?_map, List.find?_filter, Option.map_map]
  -- the range test is met by the very index that is looked up
  have hsame : ∀ item : TitleClassification,
      decide (decide (0 ≤ item.index ∧ item.index < (length : Int)) = true
          ∧ decide (item.index = (i : Int)) = true) = decide (item.index = (i : Int)) := by
    intro item
    by_cases hindex : item.index = (i : Int)
    · simp [hindex, hi]
    · simp [hindex]
  show (results.reverse.find? fun item => decide (_ ∧ decide (item.index = (i : Int)) = true)).map _
    = _
  simp only [hsame]
  exact Option.map_id'

/-- Positions name the candidates of a batch one by one. -/
theorem candidateAt_inj {batch : List Candidate} (hids : (batch.map (·.articleId)).Nodup)
    {index index' : Int} {articleId : Str}
    (h : (candidateAt batch index).map (·.articleId) = some articleId)
    (h' : (candidateAt batch index').map (·.articleId) = some articleId) : index = index' := by
  unfold candidateAt at h h'
  split at h
  · next hpos =>
      split at h'
      · next hpos' =>
          rw [← List.getElem?_map] at h h'
          -- one position for each id of the batch
          have hlt := (List.getElem?_eq_some_iff.mp h).1
          have hsame := (List.Nodup.getElem_inj_iff hids).mp
            ((List.getElem?_eq_some_iff.mp h).2.trans (List.getElem?_eq_some_iff.mp h').2.symm)
          omega
      · cases h'
  · cases h

/-- The results of distinct positions are re-keyed by distinct articles. -/
theorem rekeyed_nodup {batch : List Candidate} (hids : (batch.map (·.articleId)).Nodup)
    {byIndex : List (Int × TitleClassification)} (h : (byIndex.map (·.1)).Nodup) :
    ((byIndex.filterMap fun entry => (candidateAt batch entry.1).map fun candidate =>
      (candidate.articleId, entry.2)).map (·.1)).Nodup := by
  -- the new keys are the old ones, renamed where a candidate is there
  have hkeys : (byIndex.filterMap fun entry => (candidateAt batch entry.1).map fun candidate =>
      (candidate.articleId, entry.2)).map (·.1)
      = (byIndex.map (·.1)).filterMap fun index =>
          (candidateAt batch index).map (·.articleId) := by
    rw [List.map_filterMap, List.filterMap_map]
    congr 1
    funext entry
    rw [Option.map_map]
    rfl
  rw [hkeys]
  exact h.filterMap fun index index' articleId hindex hindex' =>
    candidateAt_inj hids hindex hindex'

/-- **What the two dictionaries come to**: an article of the batch has the last
result for its position. -/
theorem get_assignedResults {settings : Settings}
    {validate : Str → Raises (List TitleClassification)} {client : Nat → Str → ClientReply}
    {batch : List Candidate} (hids : (batch.map (·.articleId)).Nodup) {i : Nat} {articleId : Str}
    (hi : (batch[i]?).map (·.articleId) = some articleId) :
    Dict.get (assignedResults settings validate client batch) articleId
      = (replyOf settings validate client batch).bind fun results => lastAt results i := by
  obtain ⟨candidate, hget, hid⟩ := Option.map_eq_some_iff.mp hi
  have hlength : i < (batch.map (·.item)).length := by
    rw [List.length_map]
    exact (List.getElem?_eq_some_iff.mp hget).1
  have hne : batch.map (·.item) ≠ [] := List.ne_nil_of_length_pos (Nat.zero_lt_of_lt hlength)
  have hat : (candidateAt batch i).map (·.articleId) = some articleId := hi
  unfold assignedResults classifyTitles classifyTitlesBy replyOf
  rw [if_neg hne]
  cases complete settings validate client (buildPrompt settings (batch.map (·.item))) with
  | error e => rfl
  | ok results =>
      show Dict.get (Dict.ofPairs ((Dict.ofPairs _).filterMap _)) articleId = lastAt results i
      rw [← get_byIndex results hlength]
      have hkeys := Dict.keys_nodup ((results.filter fun item =>
        0 ≤ item.index ∧ item.index < ((batch.map (·.item)).length : Int)).map
          fun item => (item.index, item))
      refine Option.ext fun result => ?_
      rw [Dict.get_ofPairs_of_nodup (rekeyed_nodup hids hkeys), Dict.get_eq_some_iff hkeys,
          List.mem_filterMap]
      constructor
      · intro h
        obtain ⟨⟨index, result'⟩, hentry, hmap⟩ := h
        obtain ⟨candidate', hcandidate, hpair⟩ := Option.map_eq_some_iff.mp hmap
        cases hpair
        -- the entry that reaches the article is the one of its position
        obtain rfl : index = (i : Int) :=
          candidateAt_inj hids (by rw [hcandidate]; rfl) hat
        exact hentry
      · intro hentry
        refine ⟨_, hentry, ?_⟩
        obtain ⟨candidate', hcandidate, hid'⟩ := Option.map_eq_some_iff.mp hat
        rw [hcandidate, ← hid']
        rfl

/-! ## §4. The loop over the batch. -/

theorem attempted_id (article : Article) (result : Option TitleClassification) :
    (article.attempted result).id = article.id :=
  congrArg ArticleRow.id (attempted_labelled article result).ingested

/-- The rows of some articles, each with its result. -/
def relabel (assigned : List (Str × TitleClassification)) (ids : List Str) (article : Article) :
    Article :=
  if article.id ∈ ids then article.attempted (Dict.get assigned article.id) else article

theorem relabel_of_mem {assigned : List (Str × TitleClassification)} {ids : List Str}
    {article : Article} (h : article.id ∈ ids) :
    relabel assigned ids article = article.attempted (Dict.get assigned article.id) := if_pos h

theorem relabel_of_not_mem {assigned : List (Str × TitleClassification)} {ids : List Str}
    {article : Article} (h : article.id ∉ ids) : relabel assigned ids article = article := if_neg h

theorem relabel_id (assigned : List (Str × TitleClassification)) (ids : List Str)
    (article : Article) : (relabel assigned ids article).id = article.id := by
  unfold relabel
  split
  · exact attempted_id article _
  · rfl

theorem map_relabel_ids (assigned : List (Str × TitleClassification)) (ids : List Str)
    (articles : List Article) :
    (articles.map (relabel assigned ids)).map (·.id) = articles.map (·.id) := by
  rw [List.map_map]
  exact List.map_congr_left fun article _ => relabel_id assigned ids article

/-- One round, as an update of the table. -/
theorem persistOne_articles (assigned : List (Str × TitleClassification)) {db : Db}
    (hkeys : (db.articles.map (·.id)).Nodup) (articleId : Str) :
    (persistOne assigned db articleId).articles
      = db.articles.map (relabel assigned [articleId]) := by
  unfold persistOne
  cases hget : db.getArticle articleId with
  -- the article is gone: nothing is written
  | none =>
      have hgone := (getRow_none _).mp hget
      refine (List.map_id _).symm.trans (List.map_congr_left ?_)
      intro other hother
      exact (relabel_of_not_mem fun h => hgone other hother (List.mem_singleton.mp h)).symm
  | some article =>
      obtain ⟨hmem, hid⟩ := getRow_some _ hget
      have hput : ∀ other : Article, other.id ≠ article.id →
          relabel assigned [articleId] other = other := fun other hne =>
        relabel_of_not_mem fun h => hne ((List.mem_singleton.mp h).trans hid.symm)
      refine List.map_congr_left ?_
      intro other hother
      show (if other.id = (article.attempted (Dict.get assigned articleId)).id then _ else _) = _
      rw [attempted_id]
      by_cases hsame : other.id = article.id
      · -- ids are unique, so the row found is the only one
        have hrow : other = article := List.inj_on_of_nodup_map hkeys hother hmem hsame
        rw [if_pos hsame, hrow, relabel_of_mem (List.mem_singleton.mpr hid), hid]
      · rw [if_neg hsame, hput other hsame]

/-- **The loop over a batch, as one update of the table.** -/
theorem persistCategories_articles (assigned : List (Str × TitleClassification)) {db : Db}
    (hkeys : (db.articles.map (·.id)).Nodup) {ids : List Str} (hids : ids.Nodup) :
    (persistCategories db assigned ids).articles = db.articles.map (relabel assigned ids) := by
  unfold persistCategories
  induction ids generalizing db with
  | nil =>
      refine (List.map_id _).symm.trans (List.map_congr_left ?_)
      intro article _
      exact (relabel_of_not_mem List.not_mem_nil).symm
  | cons id ids ih =>
      obtain ⟨hnew, hrest⟩ := List.nodup_cons.mp hids
      -- one id first: it relabels its own row and no other
      have hone := persistOne_articles assigned hkeys id
      -- the keys of the rows do not change, so the rest can be taken from here
      have hkeys' : ((persistOne assigned db id).articles.map (·.id)).Nodup := by
        rw [hone, map_relabel_ids]
        exact hkeys
      rw [List.foldl_cons, ih hkeys' hrest, hone, List.map_map]
      refine List.map_congr_left ?_
      intro article _
      rw [Function.comp_apply]
      by_cases hid : article.id = id
      · -- no id comes twice, so the row is not touched again
        have hlater : (relabel assigned [id] article).id ∉ ids := by
          rw [relabel_id, hid]
          exact hnew
        rw [relabel_of_not_mem hlater, relabel_of_mem (List.mem_singleton.mpr hid),
            relabel_of_mem (List.mem_cons.mpr (Or.inl hid))]
      · have hother : article.id ∉ [id] := fun h => hid (List.mem_singleton.mp h)
        rw [relabel_of_not_mem hother]
        -- another row: it is touched later or not at all
        by_cases hlater : article.id ∈ ids
        · rw [relabel_of_mem hlater, relabel_of_mem (List.mem_cons_of_mem _ hlater)]
        · rw [relabel_of_not_mem hlater,
              relabel_of_not_mem fun h => (List.mem_cons.mp h).elim hid hlater]

/-! ## §5. The pass. -/

/-- **What a pass leaves of every row.** -/
theorem finishPass_relabels {settings : Settings}
    {validate : Str → Raises (List TitleClassification)} {client : Nat → Str → ClientReply}
    {db : Db} {batch : List Candidate} (hkeys : (db.articles.map (·.id)).Nodup)
    (hids : (batch.map (·.articleId)).Nodup) :
    List.Forall₂ (Relabelled batch (replyOf settings validate client batch)) db.articles
      (finishPass settings validate client db batch).articles := by
  unfold finishPass
  rw [persistCategories_articles _ hkeys hids, List.forall₂_map_right_iff]
  refine List.forall₂_same.mpr ?_
  intro article _
  -- a row of the batch has its own result; the others are left alone
  refine ⟨?_, relabel_of_not_mem⟩
  intro i hi
  obtain ⟨candidate, hget, hid⟩ := Option.map_eq_some_iff.mp hi
  rw [relabel_of_mem (List.mem_map.mpr ⟨candidate, List.mem_of_getElem? hget, hid⟩),
      get_assignedResults hids hi]
  exact attempted_labelled article _

end Feedcast
