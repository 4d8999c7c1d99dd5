/-
  Feedcast.Classifier.Passes — passes of the classifier, with ingest between
  and within them.

  A pass takes its batch in one session and persists in another; ticks commit
  where they like.  Passes do not overlap.

    • `PassState.Inv` — what holds of the pass under way, at every point of a run,
    • `passStep_inv` — every step keeps it,
    • `ClassifierWorld.Inv` — and what holds of the ids that were sent,
    • `classifier_passes` — the right rows, once, within the budget.
-/
import Feedcast.Carousels.OneCity
import Feedcast.Classifier.Labels

namespace Feedcast

open Feedcast.Lib

/-! ## §1. Runs. -/

/-- The database, and the batch of the pass that is under way. -/
structure PassState where
  db : Db
  pending : List Candidate := []

inductive ClassifierEvent where
  /-- The persist phase of a tick, or a part of it. -/
  | ingest (jobs : List (FetchAttempt × Weather)) (seen : List Str)
  /-- A pass takes its batch; `rows` is what the database returns. -/
  | load (now : Time) (rows : List StoryRow)
  /-- The call is over, and the pass persists. -/
  | reply (client : Nat → Str → ClientReply)

def passStep (P : Platform) (settings : Settings)
    (validate : Str → Raises (List TitleClassification)) (state : PassState) :
    ClassifierEvent → Option PassState
  | .ingest jobs seen => some { state with db := (persistAttempts P jobs state.db seen).2 }
  | .load now rows =>
      if state.pending = [] ∧ rows.Perm (unclassifiedRows settings state.db now) then
        some { state with pending := loadUnclassified settings rows }
      else none
  | .reply client =>
      -- an empty batch ends its pass at once
      if state.pending = [] then none
      else some { db := finishPass settings validate client state.db state.pending }

/-- The passes, with every id sent so far, once for each pass. -/
structure ClassifierWorld extends PassState where
  sent : List Str := []

def classifierStep (P : Platform) (settings : Settings)
    (validate : Str → Raises (List TitleClassification)) (world : ClassifierWorld)
    (event : ClassifierEvent) : Option ClassifierWorld :=
  (passStep P settings validate world.toPassState event).map fun state =>
    { toPassState := state
      sent := match event with
        | .load _ _ => world.sent ++ state.pending.map (·.articleId)
        | _ => world.sent }

/-! ## §2. The property. -/

/-- **A row as the classifier may leave it**: all seven levels or none, and a
confidence in range. -/
structure Judged (article : Article) : Prop where
  whole : (∀ name, article.dimension name = none)
    ∨ ∀ name, ∃ level : EngagementLevel, article.dimension name = some level.value
  confidence : ∀ c ∈ article.relevanceConfidence, 0 ≤ c ∧ c ≤ 1

/-- What ingest may do to the articles: add rows nobody has judged. -/
def Ingests (before after : List Article) : Prop :=
  ∃ new, after = before ++ new
    ∧ (∀ article ∈ new, (∃ now row, article = ArticleRow.insert now row)
        ∧ article.id ∉ before.map (·.id))
    ∧ ((before.map (·.id)).Nodup → (after.map (·.id)).Nodup)

/-- **What one step does to the rows.** -/
def RowsKept (settings : Settings) (validate : Str → Raises (List TitleClassification))
    (world : ClassifierWorld) (after : ClassifierWorld) : ClassifierEvent → Prop
  | .ingest _ _ => Ingests world.db.articles after.db.articles
  | .load _ _ => after.db = world.db
  | .reply client =>
      (∀ candidate ∈ world.pending, candidate.articleId ∈ world.db.articles.map (·.id))
        ∧ List.Forall₂ (Relabelled world.pending
            (replyOf settings validate client world.pending))
          world.db.articles after.db.articles

/-- What holds of the pass under way, at every point of a run. -/
structure PassState.Inv (settings : Settings) (state : PassState) : Prop where
  keys : (state.db.articles.map (·.id)).Nodup
  batch : (state.pending.map (·.articleId)).Nodup
  stored : ∀ id ∈ state.pending.map (·.articleId), id ∈ state.db.articles.map (·.id)
  /-- What is under way has not been rated, and may still be tried. -/
  unrated : ∀ article ∈ state.db.articles, article.id ∈ state.pending.map (·.articleId) →
    article.emotionalSalience = none
      ∧ (article.categoryAttempts : Int) < settings.classifyMaxAttempts

/-- And of the ids that were sent. -/
structure ClassifierWorld.Inv (settings : Settings) (world : ClassifierWorld) : Prop
    extends PassState.Inv settings world.toPassState where
  known : ∀ id ∈ world.sent, id ∈ world.db.articles.map (·.id)
  /-- Every pass but the one under way has been counted. -/
  counted : ∀ article ∈ world.db.articles, world.sent.count article.id
    ≤ article.categoryAttempts + (world.pending.map (·.articleId)).count article.id
  budget : ∀ id, world.sent.count id ≤ settings.classifyMaxAttempts.toNat

/-! ## §3. Ingest. -/

theorem Ingests.refl (articles : List Article) : Ingests articles articles := by
  refine ⟨[], (List.append_nil _).symm, ?_, fun h => h⟩
  intro article h
  cases h

theorem Ingests.trans {before between after : List Article} (h : Ingests before between)
    (h' : Ingests between after) : Ingests before after := by
  obtain ⟨new, rfl, hnew, hkeys⟩ := h
  obtain ⟨new', rfl, hnew', hkeys'⟩ := h'
  refine ⟨new ++ new', List.append_assoc _ _ _, ?_, fun hnodup => hkeys' (hkeys hnodup)⟩
  intro article harticle
  rcases List.mem_append.mp harticle with hmem | hmem
  · exact hnew article hmem
  · obtain ⟨hrow, hid⟩ := hnew' article hmem
    rw [List.map_append] at hid
    exact ⟨hrow, fun hold => hid (List.mem_append_left _ hold)⟩

/-- **Ticks only add rows.** -/
theorem persistAttempts_ingests (P : Platform) (jobs : List (FetchAttempt × Weather)) (db : Db)
    (seen : List Str) : Ingests db.articles (persistAttempts P jobs db seen).2.articles := by
  induction jobs generalizing db seen with
  | nil => exact Ingests.refl _
  | cons job rest ih =>
      cases hget : db.getSource job.1.sourceId with
      | none =>
          rw [persistAttempts_gone hget]
          exact ih db seen
      | some source =>
          cases htxn : commitTxn job.2 (persistAttempt P job.2 db source job.1 seen).2 with
          -- a transaction rolled back leaves the articles as they were
          | error e =>
              rw [persistAttempts_rolledBack hget htxn]
              exact ih _ _
          | ok ingested =>
              rw [persistAttempts_committed hget htxn]
              refine Ingests.trans ?_ (ih (db.commitIngested ingested) _)
              obtain ⟨rows, hrows⟩ := persistAttempt_articles (commitTxn_ok htxn)
              show Ingests db.articles (db.articles ++ ingested.articles)
              rw [hrows]
              refine ⟨_, rfl, ?_, fun hkeys => upsert_nodup _ hkeys _⟩
              intro article harticle
              obtain ⟨hmem, hnew⟩ := mem_inserted _ harticle
              obtain ⟨row, -, rfl⟩ := List.mem_map.mp hmem
              exact ⟨⟨_, row, rfl⟩, hnew⟩

/-- A new row has not been judged. -/
theorem insert_judged (now : Time) (row : ArticleRow) : Judged (row.insert now) := by
  refine ⟨Or.inl ?_, ?_⟩
  · intro name
    cases name <;> rfl
  · intro c hc
    cases hc

/-- A row whose id was there before the ingest was there itself. -/
theorem Ingests.old {before after : List Article} (h : Ingests before after) {article : Article}
    (harticle : article ∈ after) (hid : article.id ∈ before.map (·.id)) : article ∈ before := by
  obtain ⟨new, rfl, hnew, -⟩ := h
  rcases List.mem_append.mp harticle with hold | hmem
  · exact hold
  · exact absurd hid (hnew article hmem).2

theorem Ingests.ids {before after : List Article} (h : Ingests before after) {id : Str}
    (hid : id ∈ before.map (·.id)) : id ∈ after.map (·.id) := by
  obtain ⟨new, rfl, -, -⟩ := h
  rw [List.map_append]
  exact List.mem_append_left _ hid

theorem Ingests.keys {before after : List Article} (h : Ingests before after)
    (hkeys : (before.map (·.id)).Nodup) : (after.map (·.id)).Nodup := by
  obtain ⟨_, -, -, hnodup⟩ := h
  exact hnodup hkeys

/-- New rows are of ids that are not under way. -/
theorem PassState.Inv.ingest {settings : Settings} {state : PassState} (h : state.Inv settings)
    {db : Db} (hdb : Ingests state.db.articles db.articles) :
    ({ state with db := db } : PassState).Inv settings where
  keys := hdb.keys h.keys
  batch := h.batch
  stored := fun id hid => hdb.ids (h.stored id hid)
  unrated := fun article harticle hid =>
    h.unrated article (hdb.old harticle (h.stored _ hid)) hid

/-! ## §4. The batch. -/

theorem mem_loadUnclassified {settings : Settings} {db : Db} {now : Time} {rows : List StoryRow}
    (hrows : rows.Perm (unclassifiedRows settings db now)) {candidate : Candidate}
    (h : candidate ∈ loadUnclassified settings rows) :
    ∃ article ∈ db.articles, article.id = candidate.articleId
      ∧ article.emotionalSalience = none
      ∧ (article.categoryAttempts : Int) < settings.classifyMaxAttempts := by
  obtain ⟨row, hrow, rfl⟩ := List.mem_map.mp h
  -- taken from the sorted rows, which are those of the query
  have hmem := hrows.mem_iff.mp
    ((List.perm_insertionSort _ _).mem_iff.mp (List.mem_of_mem_take hrow))
  obtain ⟨hjoined, hwhere⟩ := List.mem_filter.mp hmem
  obtain ⟨hsalience, hattempts, -⟩ := of_decide_eq_true hwhere
  exact ⟨row.article, (joined_sublist db db.articles).mem (List.mem_map.mpr ⟨row, hjoined, rfl⟩),
    rfl, hsalience, hattempts⟩

theorem loadUnclassified_ids {settings : Settings} {db : Db} {now : Time} {rows : List StoryRow}
    (hkeys : (db.articles.map (·.id)).Nodup)
    (hrows : rows.Perm (unclassifiedRows settings db now)) :
    ((loadUnclassified settings rows).map (·.articleId)).Nodup := by
  have hids : (rows.map (·.article.id)).Nodup :=
    (hrows.map _).nodup_iff.mpr (joined_ids hkeys _)
  -- neither the sorting nor the limit repeats an id
  have hsorted := ((List.perm_insertionSort
    (fun a b : StoryRow => a.article.fetchedAt ≤ b.article.fetchedAt) rows).map
      (·.article.id)).nodup_iff.mpr hids
  unfold loadUnclassified
  rw [List.map_map]
  exact hsorted.sublist ((List.take_sublist _ _).map _)

/-- Between two passes there is nothing to keep but the keys. -/
theorem PassState.Inv.idle (settings : Settings) {db : Db}
    (hkeys : (db.articles.map (·.id)).Nodup) : ({ db := db } : PassState).Inv settings where
  keys := hkeys
  batch := List.nodup_nil
  stored := fun _ h => absurd h List.not_mem_nil
  unrated := fun _ _ h => absurd h List.not_mem_nil

/-- What a batch is, for the rows of the table. -/
theorem PassState.Inv.load {settings : Settings} {state : PassState} (h : state.Inv settings)
    {now : Time} {rows : List StoryRow}
    (hrows : rows.Perm (unclassifiedRows settings state.db now)) :
    ({ state with pending := loadUnclassified settings rows } : PassState).Inv settings where
  keys := h.keys
  batch := loadUnclassified_ids h.keys hrows
  stored := by
    intro id hid
    obtain ⟨candidate, hcandidate, rfl⟩ := List.mem_map.mp hid
    obtain ⟨article, hmem, hid, -⟩ := mem_loadUnclassified hrows hcandidate
    exact List.mem_map.mpr ⟨article, hmem, hid⟩
  unrated := by
    intro article harticle hid
    obtain ⟨candidate, hcandidate, hcid⟩ := List.mem_map.mp hid
    obtain ⟨article', hmem, hid', hrest⟩ := mem_loadUnclassified hrows hcandidate
    -- the candidate was read off this very row
    rw [List.inj_on_of_nodup_map h.keys harticle hmem (hcid.symm.trans hid'.symm)]
    exact hrest

/-! ## §5. The reply. -/

/-- **A result labels a row legally**, whatever the confidence in it. -/
theorem attempted_judged {article : Article} (h : Judged article)
    (result : Option TitleClassification) : Judged (article.attempted result) := by
  cases result with
  -- no verdict: the labels stay, one attempt is counted
  | none =>
      have hsame : (article.attempted none).dimension = article.dimension :=
        congrArg Labels.level (attempted_labelled article none).labels
      refine ⟨?_, h.confidence⟩
      rw [hsame]
      exact h.whole
  | some result =>
      refine ⟨Or.inr fun name => ⟨result.level name, attempted_dimension article result name⟩, ?_⟩
      intro c hc
      cases hc
      exact clampUnit_mem result.confidence

/-! ## §6. Steps. -/

section Step

variable {P : Platform} {settings : Settings} {validate : Str → Raises (List TitleClassification)}
  {state state' : PassState} {world after : ClassifierWorld} {event : ClassifierEvent}

theorem load_enabled {now : Time} {rows : List StoryRow}
    (h : passStep P settings validate state (.load now rows) = some state') :
    state.pending = [] ∧ rows.Perm (unclassifiedRows settings state.db now)
      ∧ state' = { state with pending := loadUnclassified settings rows } := by
  simp only [passStep] at h
  split at h
  · next henabled => exact ⟨henabled.1, henabled.2, (Option.some.inj h).symm⟩
  · cases h

theorem reply_enabled {client : Nat → Str → ClientReply}
    (h : passStep P settings validate state (.reply client) = some state') :
    state' = { db := finishPass settings validate client state.db state.pending } := by
  simp only [passStep] at h
  split at h
  · cases h
  · exact (Option.some.inj h).symm

/-- The rows a pass leaves. -/
theorem finishPass_articles (h : state.Inv settings) (client : Nat → Str → ClientReply) :
    (finishPass settings validate client state.db state.pending).articles
      = state.db.articles.map (relabel (assignedResults settings validate client state.pending)
          (state.pending.map (·.articleId))) :=
  persistCategories_articles _ h.keys h.batch

/-- **Every step keeps the invariant of the pass.** -/
theorem passStep_inv (h : state.Inv settings)
    (hstep : passStep P settings validate state event = some state') : state'.Inv settings := by
  cases event with
  | ingest jobs seen =>
      obtain rfl := Option.some.inj hstep
      exact h.ingest (persistAttempts_ingests P jobs state.db seen)
  | load now rows =>
      obtain ⟨-, hrows, rfl⟩ := load_enabled hstep
      exact h.load hrows
  | reply client =>
      obtain rfl := reply_enabled hstep
      apply PassState.Inv.idle
      rw [finishPass_articles h, map_relabel_ids]
      exact h.keys

/-- A step of the passes, whatever was sent. -/
theorem classifierStep_pass (h : classifierStep P settings validate world event = some after) :
    passStep P settings validate world.toPassState event = some after.toPassState := by
  obtain ⟨state, hstate, rfl⟩ := Option.map_eq_some_iff.mp h
  exact hstate

/-- A batch is sent; its rows have an attempt left for it. -/
theorem ClassifierWorld.Inv.load (h : world.Inv settings) (hidle : world.pending = []) {now : Time}
    {rows : List StoryRow} (hrows : rows.Perm (unclassifiedRows settings world.db now)) :
    ({ toPassState := { world.toPassState with pending := loadUnclassified settings rows }
       sent := world.sent ++ (loadUnclassified settings rows).map (·.articleId) } :
      ClassifierWorld).Inv settings := by
  have hids := loadUnclassified_ids h.keys hrows
  -- no pass was under way, so every sending has been counted
  have hcounted : ∀ article ∈ world.db.articles,
      world.sent.count article.id ≤ article.categoryAttempts := by
    intro article harticle
    have hcount := h.counted article harticle
    rw [hidle] at hcount
    exact hcount
  refine { h.toInv.load hrows with known := ?_, counted := ?_, budget := ?_ }
  · intro id hid
    rcases List.mem_append.mp hid with hid | hid
    · exact h.known id hid
    · exact (h.toInv.load hrows).stored id hid
  · intro article harticle
    show (world.sent ++ _).count article.id ≤ _
    rw [List.count_append]
    exact Nat.add_le_add_right (hcounted article harticle) _
  · intro id
    show (world.sent ++ _).count id ≤ _
    rw [List.count_append]
    by_cases hid : id ∈ (loadUnclassified settings rows).map (·.articleId)
    · -- the row has an attempt left for this pass
      obtain ⟨candidate, hc, rfl⟩ := List.mem_map.mp hid
      obtain ⟨article, hmem, hid', -, hattempts⟩ := mem_loadUnclassified hrows hc
      have hcount := hcounted article hmem
      rw [hid'] at hcount
      rw [List.count_eq_one_of_mem hids hid]
      omega
    · rw [List.count_eq_zero_of_not_mem hid]
      exact h.budget id

/-- The pass that ends has been counted with the attempts. -/
theorem ClassifierWorld.Inv.reply (h : world.Inv settings) (client : Nat → Str → ClientReply) :
    ({ db := finishPass settings validate client world.db world.pending, sent := world.sent } :
      ClassifierWorld).Inv settings := by
  have harticles : (finishPass settings validate client world.db world.pending).articles = _ :=
    finishPass_articles h.toInv client
  -- rows are relabelled in place
  have hkeys : ((finishPass settings validate client world.db world.pending).articles.map
      (·.id)).Nodup := by
    rw [harticles, map_relabel_ids]
    exact h.keys
  refine { PassState.Inv.idle settings hkeys with known := ?_, counted := ?_, budget := h.budget }
  · intro id hid
    show id ∈ (finishPass settings validate client world.db world.pending).articles.map (·.id)
    rw [harticles, map_relabel_ids]
    exact h.known id hid
  · intro article harticle
    rw [harticles] at harticle
    obtain ⟨before, hbefore, rfl⟩ := List.mem_map.mp harticle
    have hcount := h.counted before hbefore
    rw [relabel_id]
    by_cases hsent : before.id ∈ world.pending.map (·.articleId)
    · -- the pass under way is the attempt that has just been counted
      rw [List.count_eq_one_of_mem h.batch hsent] at hcount
      rw [relabel_of_mem hsent, (attempted_labelled before _).attempts]
      exact hcount
    · rw [List.count_eq_zero_of_not_mem hsent] at hcount
      rw [relabel_of_not_mem hsent]
      exact hcount

/-- **Every step keeps the invariant.** -/
theorem classifierStep_inv (h : world.Inv settings)
    (hstep : classifierStep P settings validate world event = some after) :
    after.Inv settings := by
  obtain ⟨state, hstate, rfl⟩ := Option.map_eq_some_iff.mp hstep
  cases event with
  | ingest jobs seen =>
      obtain rfl := Option.some.inj hstate
      have hdb := persistAttempts_ingests P jobs world.db seen
      refine { h.toInv.ingest hdb with known := ?_, counted := ?_, budget := h.budget }
      · exact fun id hid => hdb.ids (h.known id hid)
      · intro article harticle
        -- a row that was never sent has no attempts to account for
        by_cases hsent : article.id ∈ world.sent
        · exact h.counted article (hdb.old harticle (h.known _ hsent))
        · show world.sent.count article.id ≤ _
          rw [List.count_eq_zero_of_not_mem hsent]
          exact Nat.zero_le _
  | load now rows =>
      obtain ⟨hidle, hrows, rfl⟩ := load_enabled hstate
      exact h.load hidle hrows
  | reply client =>
      obtain rfl := reply_enabled hstate
      exact h.reply client

/-- **What a step does to the rows.** -/
theorem classifierStep_rows (h : world.Inv settings)
    (hstep : classifierStep P settings validate world event = some after) :
    RowsKept settings validate world after event := by
  have hstate := classifierStep_pass hstep
  cases event with
  | ingest jobs seen =>
      show Ingests world.db.articles after.toPassState.db.articles
      rw [← Option.some.inj hstate]
      exact persistAttempts_ingests P jobs world.db seen
  -- a pass that begins writes nothing
  | load now rows =>
      obtain ⟨-, -, hafter⟩ := load_enabled hstate
      show after.toPassState.db = world.db
      rw [hafter]
  | reply client =>
      have hafter := reply_enabled hstate
      refine ⟨fun candidate hc => h.stored _ (List.mem_map_of_mem hc), ?_⟩
      show List.Forall₂ _ _ after.toPassState.db.articles
      rw [hafter]
      exact finishPass_relabels h.keys h.batch

/-- **Every step leaves legal rows legal.** -/
theorem classifierStep_judged (h : world.Inv settings)
    (hstep : classifierStep P settings validate world event = some after)
    (hjudged : ∀ article ∈ world.db.articles, Judged article) :
    ∀ article ∈ after.db.articles, Judged article := by
  intro article harticle
  have hstate := classifierStep_pass hstep
  cases event with
  | ingest jobs seen =>
      rw [← Option.some.inj hstate] at harticle
      obtain ⟨new, harticles, hnew, -⟩ := persistAttempts_ingests P jobs world.db seen
      rcases List.mem_append.mp (harticles ▸ harticle) with hold | hmem
      · exact hjudged article hold
      -- an insert leaves every label empty
      · obtain ⟨⟨now, row, rfl⟩, -⟩ := hnew article hmem
        exact insert_judged now row
  | load now rows =>
      obtain ⟨-, -, hafter⟩ := load_enabled hstate
      rw [hafter] at harticle
      exact hjudged article harticle
  | reply client =>
      rw [reply_enabled hstate] at harticle
      have hrows : (finishPass settings validate client world.db world.pending).articles = _ :=
        finishPass_articles h.toInv client
      obtain ⟨before, hbefore, rfl⟩ := List.mem_map.mp (hrows ▸ harticle)
      unfold relabel
      split
      · exact attempted_judged (hjudged before hbefore) _
      · exact hjudged before hbefore

/-- **A rated row is left as it is.** -/
theorem classifierStep_rated (h : world.Inv settings)
    (hstep : classifierStep P settings validate world event = some after) {article : Article}
    (hmem : article ∈ world.db.articles) (hrated : article.emotionalSalience ≠ none) :
    article ∈ after.db.articles := by
  have hstate := classifierStep_pass hstep
  cases event with
  | ingest jobs seen =>
      rw [← Option.some.inj hstate]
      obtain ⟨new, harticles, -, -⟩ := persistAttempts_ingests P jobs world.db seen
      show article ∈ (persistAttempts P jobs world.db seen).2.articles
      rw [harticles]
      exact List.mem_append_left _ hmem
  | load now rows =>
      obtain ⟨-, -, hafter⟩ := load_enabled hstate
      rw [hafter]
      exact hmem
  | reply client =>
      rw [reply_enabled hstate]
      show article ∈ (finishPass _ _ _ _ _).articles
      rw [finishPass_articles h.toInv]
      refine List.mem_map.mpr ⟨article, hmem, relabel_of_not_mem ?_⟩
      -- what is under way was loaded unrated
      intro hsent
      exact hrated (h.unrated article hmem hsent).1

end Step

/-! ## §7. Runs. -/

/-- The classifier before its first pass. -/
theorem inv_start (settings : Settings) {db : Db} (hkeys : (db.articles.map (·.id)).Nodup) :
    ({ db := db } : ClassifierWorld).Inv settings :=
  { PassState.Inv.idle settings hkeys with
    known := fun _ h => absurd h List.not_mem_nil
    counted := fun _ _ => Nat.zero_le _
    budget := fun _ => Nat.zero_le _ }

/-- **THE CLASSIFIER LABELS THE RIGHT ROWS, ONCE, WITHIN ITS BUDGET.** -/
theorem classifier_passes (P : Platform) (settings : Settings)
    (validate : Str → Raises (List TitleClassification)) {db : Db}
    (hkeys : (db.articles.map (·.id)).Nodup) {events : List ClassifierEvent}
    {world : ClassifierWorld}
    (hrun : Run (classifierStep P settings validate) { db := db } events world) :
    (∀ event after, classifierStep P settings validate world event = some after →
        RowsKept settings validate world after event)
      ∧ (∀ id, world.sent.count id ≤ settings.classifyMaxAttempts.toNat)
      ∧ ((∀ article ∈ db.articles, Judged article) → ∀ article ∈ world.db.articles, Judged article)
      ∧ (world.db.articles.map (·.id)).Nodup
      ∧ ∀ later after, Run (classifierStep P settings validate) world later after →
          ∀ article ∈ world.db.articles, article.emotionalSalience ≠ none →
            article ∈ after.db.articles := by
  have hstart : ({ db := db } : ClassifierWorld).Inv settings := inv_start settings hkeys
  have hinv : world.Inv settings :=
    hrun.invariant (fun _ _ _ h hstep => classifierStep_inv h hstep) hstart
  refine ⟨fun event after hstep => classifierStep_rows hinv hstep, hinv.budget, ?_, hinv.keys, ?_⟩
  · intro hjudged
    have hkept : world.Inv settings ∧ ∀ article ∈ world.db.articles, Judged article := by
      refine hrun.invariant
        (I := fun w => w.Inv settings ∧ ∀ article ∈ w.db.articles, Judged article) ?_
        ⟨hstart, hjudged⟩
      intro w event w' h hstep
      exact ⟨classifierStep_inv h.1 hstep, classifierStep_judged h.1 hstep h.2⟩
    exact hkept.2
  · intro later after hlater article hmem hrated
    -- a rated row is not asked about again, so that nothing can unrate it
    have hkept : after.Inv settings ∧ article ∈ after.db.articles := by
      refine hlater.invariant (I := fun w => w.Inv settings ∧ article ∈ w.db.articles) ?_
        ⟨hinv, hmem⟩
      intro w event w' h hstep
      exact ⟨classifierStep_inv h.1 hstep, classifierStep_rated h.1 hstep h.2 hrated⟩
    exact hkept.2

/-! ## §8. A reply about one of two. -/

/-- A result of the highest levels, for a position. -/
def civicResult (index : Int) : TitleClassification where
  index := index
  category := .civic
  contentType := .news
  isCityRelevant := true
  confidence := .nan
  level := fun _ => .veryHigh

/-- A reply that names the second headline twice and one nobody asked about. -/
def secondOnly (_ : Str) : Raises (List TitleClassification) :=
  .ok [civicResult 1, civicResult 7, civicResult 1]

/-- A client that answers each prompt with an empty text. -/
def emptyText (_ : Nat) (_ : Str) : ClientReply :=
  .returned { text := [], promptTokens := none, completionTokens := none }

/-- A pass over the stories of two cities. -/
def onePass : List ClassifierEvent :=
  [.load (seconds 1790000000) (unclassifiedRows defaultSettings twoCities (seconds 1790000000)),
    .reply emptyText]

theorem classifier_passes_twoCities :
    ∃ world, Run (classifierStep feedless defaultSettings secondOnly) { db := twoCities } onePass
        world
      ∧ world.db.articles.map (·.category) = [none, some "civic".toList]
      ∧ (∀ id, world.sent.count id ≤ 3)
      ∧ ∀ article ∈ world.db.articles, Judged article := by
  have hok : ∃ world ∈ exec (classifierStep feedless defaultSettings secondOnly) { db := twoCities }
      onePass, world.db.articles.map (·.category) = [none, some "civic".toList] := by
    decide +kernel
  obtain ⟨world, hexec, hlabels⟩ := hok
  have hrun := run_iff_exec.mpr hexec
  -- both rows are as they were inserted
  have hstart : ∀ article ∈ twoCities.articles, Judged article := by
    intro article harticle
    rcases List.mem_pair.mp harticle with rfl | rfl
    · exact insert_judged (seconds 1790000000)
        (articleOf 1 drainageId "Drainage works begin".toList).toArticleRow
    · exact insert_judged (seconds 1790000000)
        (articleOf 2 metroId "Metro opens".toList).toArticleRow
  obtain ⟨-, hbudget, hjudged, -, -⟩ :=
    classifier_passes feedless defaultSettings secondOnly (by decide) hrun
  exact ⟨world, hrun, hlabels, hbudget, hjudged hstart⟩

end Feedcast
