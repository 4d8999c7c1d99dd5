/-
  Feedcast.Classifier.Backlog — how long an article waits for the classifier.

  The loop runs one pass after another.  A pass may raise anywhere, and then
  writes nothing; ingest goes on meanwhile.  The queue is the query's order:
  oldest arrival first.

    • `LoopWorld.Inv.oldest` — what a batch leaves out arrived no earlier than all
      of it, and the batch is full,
    • `loopStep_turns` — a pass that finished without an article took a turn each
      from a batch of older ones,
    • `backlog_drains` — hence the passes an article waits through are bounded by
      the unjudged that were there when it came.
-/
import Feedcast.Classifier.Passes
import Feedcast.Lib.Backlog

namespace Feedcast

open Feedcast.Lib

/-! ## §1. The loop. -/

/-- The passes, with the ids the query of the one under way returned, and those ids
of every pass that has finished. -/
structure LoopWorld extends PassState where
  offered : List Str := []
  finished : List (List Str) := []

inductive LoopEvent where
  | pass (event : ClassifierEvent)
  /-- The pass raises: it is logged, and the loop goes on. -/
  | crash

def loopStep (P : Platform) (settings : Settings)
    (validate : Str → Raises (List TitleClassification)) (w : LoopWorld) :
    LoopEvent → Option LoopWorld
  | .pass event =>
      (passStep P settings validate w.toPassState event).map fun state =>
        match event with
        | .ingest _ _ => { w with toPassState := state }
        | .load _ rows => { w with toPassState := state, offered := rows.map (·.article.id) }
        | .reply _ => { toPassState := state, finished := w.finished ++ [w.offered] }
  | .crash => if w.pending = [] then none else some { w with pending := [], offered := [] }

/-- The passes that have finished and could have taken an article. -/
def LoopWorld.waited (w : LoopWorld) (id : Str) : Nat := w.finished.countP fun ids => id ∈ ids

/-! ## §2. The queue. -/

/-- The times a row may still be sent. -/
def turnsLeft (settings : Settings) (article : Article) : Nat :=
  if article.emotionalSalience = none then
    (settings.classifyMaxAttempts - article.categoryAttempts).toNat
  else 0

/-- Another row, which arrived no later. -/
def Article.StandsBefore (article other : Article) : Prop :=
  other.id ≠ article.id ∧ other.fetchedAt ≤ article.fetchedAt

instance (article : Article) : DecidablePred article.StandsBefore := fun other =>
  inferInstanceAs (Decidable (other.id ≠ article.id ∧ other.fetchedAt ≤ article.fetchedAt))

/-- The turns left to the rows before an article. -/
def backlog (settings : Settings) (article : Article) (db : Db) : Nat :=
  ahead (turnsLeft settings) article.StandsBefore db.articles

/-- The rows before an article that have turns left. -/
def unjudgedBefore (settings : Settings) (article : Article) (db : Db) : Nat :=
  db.articles.countP fun other => article.StandsBefore other ∧ 0 < turnsLeft settings other

/-- The rows before an article, judged or not. -/
def standing (article : Article) (db : Db) : Nat := db.articles.countP article.StandsBefore

/-- What holds at every point of a run. -/
structure LoopWorld.Inv (settings : Settings) (w : LoopWorld) : Prop
    extends PassState.Inv settings w.toPassState where
  offered : ∀ id ∈ w.offered, id ∈ w.db.articles.map (·.id)
  /-- **Nobody is overtaken.** -/
  oldest : ∀ article ∈ w.db.articles, article.id ∈ w.offered →
    article.id ∉ w.pending.map (·.articleId) →
      w.pending.length = settings.classifyBatchSize
        ∧ ∀ older ∈ w.db.articles, older.id ∈ w.pending.map (·.articleId) →
            older.fetchedAt ≤ article.fetchedAt

/-! ## §3. What a step leaves of the invariant. -/

section Steps

variable {P : Platform} {settings : Settings} {validate : Str → Raises (List TitleClassification)}
  {w w' : LoopWorld} {event : LoopEvent}

/-- **What a batch leaves out arrived no earlier**, and the batch is full. -/
theorem LoopWorld.Inv.load (h : w.Inv settings) {now : Time} {rows : List StoryRow}
    (hrows : rows.Perm (unclassifiedRows settings w.db now)) :
    ({ w with
        pending := loadUnclassified settings rows, offered := rows.map (·.article.id) } :
      LoopWorld).Inv settings := by
  have hrow : ∀ row ∈ rows, row.article ∈ w.db.articles := by
    intro row hrow
    obtain ⟨hjoined, -⟩ := List.mem_filter.mp (hrows.mem_iff.mp hrow)
    exact (joined_sublist w.db w.db.articles).mem (List.mem_map.mpr ⟨row, hjoined, rfl⟩)
  have hbatch : ∀ id ∈ (loadUnclassified settings rows).map (·.articleId),
      ∃ row ∈ (rows.insertionSort fun a b => a.article.fetchedAt ≤ b.article.fetchedAt).take
        settings.classifyBatchSize, row.article.id = id := by
    intro id hid
    obtain ⟨candidate, hcandidate, rfl⟩ := List.mem_map.mp hid
    obtain ⟨row, hrow, rfl⟩ := List.mem_map.mp hcandidate
    exact ⟨row, hrow, rfl⟩
  have hsame : ∀ {row : StoryRow} {article : Article}, row ∈ rows → article ∈ w.db.articles →
      row.article.id = article.id → row.article = article := fun hin harticle hid =>
    List.inj_on_of_nodup_map h.keys (hrow _ hin) harticle hid
  have hsorted : ∀ {row : StoryRow},
      row ∈ (rows.insertionSort fun a b => a.article.fetchedAt ≤ b.article.fetchedAt).take
        settings.classifyBatchSize → row ∈ rows := fun htake =>
    (List.mem_insertionSort _).mp (List.mem_of_mem_take htake)
  refine { h.toInv.load hrows with offered := ?_, oldest := ?_ }
  · intro id hid
    obtain ⟨row, hin, rfl⟩ := List.mem_map.mp hid
    exact List.mem_map.mpr ⟨row.article, hrow row hin, rfl⟩
  · intro article harticle hoffered hout
    obtain ⟨row, hin, hid⟩ := List.mem_map.mp hoffered
    obtain rfl := hsame hin harticle hid
    have hlate : row ∉ (rows.insertionSort fun a b =>
        a.article.fetchedAt ≤ b.article.fetchedAt).take settings.classifyBatchSize := by
      intro htake
      exact hout (List.mem_map.mpr ⟨row.candidate, List.mem_map.mpr ⟨row, htake, rfl⟩, rfl⟩)
    have : Std.Total fun a b : StoryRow => a.article.fetchedAt ≤ b.article.fetchedAt :=
      ⟨fun a b => le_total a.article.fetchedAt b.article.fetchedAt⟩
    have : IsTrans StoryRow fun a b => a.article.fetchedAt ≤ b.article.fetchedAt :=
      ⟨fun _ _ _ hab hbc => le_trans hab hbc⟩
    -- it stood behind the batch in the order of the query
    obtain ⟨hfull, hbefore⟩ := take_full hin hlate
    constructor
    · show (loadUnclassified settings rows).length = _
      unfold loadUnclassified
      rw [List.length_map]
      exact hfull
    · intro older holder holderid
      obtain ⟨row', htake, hid'⟩ := hbatch older.id holderid
      obtain rfl := hsame (hsorted htake) holder hid'
      exact hbefore row' htake

/-- New rows are of ids nobody was offered. -/
theorem LoopWorld.Inv.ingest (h : w.Inv settings) {db : Db}
    (hdb : Ingests w.db.articles db.articles) :
    ({ w with db := db } : LoopWorld).Inv settings := by
  refine { h.toInv.ingest hdb with offered := ?_, oldest := ?_ }
  · exact fun id hid => hdb.ids (h.offered id hid)
  · intro article harticle hoffered hout
    have hold := hdb.old harticle (h.offered _ hoffered)
    obtain ⟨hfull, hbefore⟩ := h.oldest article hold hoffered hout
    refine ⟨hfull, ?_⟩
    intro older holder hid
    exact hbefore older (hdb.old holder (h.stored _ hid)) hid

/-- Between two passes nobody is offered anything. -/
theorem idle_inv {db : Db} {finished : List (List Str)} (hkeys : (db.articles.map (·.id)).Nodup) :
    ({ db := db, finished := finished } : LoopWorld).Inv settings :=
  { PassState.Inv.idle settings hkeys with
    offered := fun _ h => absurd h List.not_mem_nil
    oldest := fun _ _ h => absurd h List.not_mem_nil }

theorem loop_load_cases {now : Time} {rows : List StoryRow}
    (h : loopStep P settings validate w (.pass (.load now rows)) = some w') :
    rows.Perm (unclassifiedRows settings w.db now)
      ∧ w' = { w with
          pending := loadUnclassified settings rows, offered := rows.map (·.article.id) } := by
  obtain ⟨state, hstate, rfl⟩ := Option.map_eq_some_iff.mp h
  obtain ⟨-, hrows, rfl⟩ := load_enabled hstate
  exact ⟨hrows, rfl⟩

theorem loop_reply_cases {client : Nat → Str → ClientReply}
    (h : loopStep P settings validate w (.pass (.reply client)) = some w') :
    w' = { db := finishPass settings validate client w.db w.pending
           finished := w.finished ++ [w.offered] } := by
  obtain ⟨state, hstate, rfl⟩ := Option.map_eq_some_iff.mp h
  obtain rfl := reply_enabled hstate
  rfl

theorem loop_crash_cases (h : loopStep P settings validate w .crash = some w') :
    w' = { w with pending := [], offered := [] } := by
  simp only [loopStep] at h
  split at h
  · cases h
  · exact (Option.some.inj h).symm

/-- **Every step keeps the invariant.** -/
theorem loopStep_inv (h : w.Inv settings)
    (hstep : loopStep P settings validate w event = some w') : w'.Inv settings := by
  cases event with
  | pass event =>
      cases event with
      | ingest jobs seen =>
          obtain rfl := Option.some.inj hstep
          exact h.ingest (persistAttempts_ingests P jobs w.db seen)
      | load now rows =>
          obtain ⟨hrows, rfl⟩ := loop_load_cases hstep
          exact h.load hrows
      | reply client =>
          obtain ⟨state, hstate, -⟩ := Option.map_eq_some_iff.mp hstep
          have hkeys := (passStep_inv h.toInv hstate).keys
          rw [reply_enabled hstate] at hkeys
          obtain rfl := loop_reply_cases hstep
          exact idle_inv hkeys
  -- the batch is dropped, and with it what the invariant asks of one
  | crash =>
      obtain rfl := loop_crash_cases hstep
      exact idle_inv h.keys

end Steps

/-! ## §4. Turns. -/

section Turns

variable {settings : Settings} {assigned : List (Str × TitleClassification)} {ids : List Str}
  {article other : Article} {w : LoopWorld}

theorem relabel_arrived (article : Article) :
    (relabel assigned ids article).fetchedAt = article.fetchedAt := by
  unfold relabel
  split
  · exact (attempted_labelled article _).arrived
  · rfl

theorem relabel_standsBefore :
    article.StandsBefore (relabel assigned ids other) ↔ article.StandsBefore other := by
  unfold Article.StandsBefore
  rw [relabel_id, relabel_arrived]

/-- Only the id and the arrival tell what stands before an article. -/
theorem backlog_congr (hid : other.id = article.id) (htime : other.fetchedAt = article.fetchedAt)
    (db : Db) : backlog settings other db = backlog settings article db := by
  apply ahead_congr
  intro before _
  unfold Article.StandsBefore
  rw [hid, htime]

theorem standing_congr (hid : other.id = article.id) (htime : other.fetchedAt = article.fetchedAt)
    (db : Db) : standing other db = standing article db := by
  unfold standing
  apply List.countP_congr
  intro before _
  rw [decide_eq_true_eq, decide_eq_true_eq, Article.StandsBefore, Article.StandsBefore, hid, htime]

/-- **A row that was sent has a turn less, or none.** -/
theorem attempted_turnsLeft (hunrated : article.emotionalSalience = none)
    (htries : (article.categoryAttempts : Int) < settings.classifyMaxAttempts)
    (result : Option TitleClassification) :
    turnsLeft settings (article.attempted result) < turnsLeft settings article := by
  unfold turnsLeft
  rw [if_pos hunrated]
  -- an answer takes all the turns, no answer takes one
  cases result with
  | none =>
      rw [if_pos (show (article.attempted none).emotionalSalience = none from hunrated)]
      show (settings.classifyMaxAttempts - ((article.categoryAttempts + 1 : Nat) : Int)).toNat < _
      omega
  | some result =>
      have hrated := attempted_dimension article result .emotionalSalience
      have hne : (article.attempted (some result)).emotionalSalience ≠ none := by
        show (article.attempted (some result)).dimension .emotionalSalience ≠ none
        rw [hrated]
        exact Option.some_ne_none _
      rw [if_neg hne]
      omega

theorem turnsLeft_le (article : Article) :
    turnsLeft settings article ≤ settings.classifyMaxAttempts.toNat := by
  unfold turnsLeft
  split
  · omega
  · exact Nat.zero_le _

/-- **A full batch of older rows takes a turn off for each.** -/
theorem backlog_full (h : w.Inv settings) (hout : article.id ∉ w.pending.map (·.articleId))
    (hbefore : ∀ older ∈ w.db.articles, older.id ∈ w.pending.map (·.articleId) →
      older.fetchedAt ≤ article.fetchedAt) :
    w.pending.length ≤ w.db.articles.countP fun other =>
      article.StandsBefore other ∧ other.id ∈ w.pending.map (·.articleId) := by
  -- every id of the batch is that of a row that stands before the article
  have hsub : w.pending.map (·.articleId) ⊆ (w.db.articles.filter fun other =>
      article.StandsBefore other ∧ other.id ∈ w.pending.map (·.articleId)).map (·.id) := by
    intro id hid
    obtain ⟨other, hother, rfl⟩ := List.mem_map.mp (h.stored id hid)
    refine List.mem_map.mpr ⟨other, List.mem_filter.mpr ⟨hother, ?_⟩, rfl⟩
    refine decide_eq_true ⟨⟨?_, hbefore other hother hid⟩, hid⟩
    intro heq
    exact hout (heq ▸ hid)
  have hlength := (List.subperm_of_subset h.batch hsub).length_le
  rw [List.length_map, List.length_map] at hlength
  -- the ids are distinct, so there are as many such rows
  rw [List.countP_eq_length_filter]
  exact hlength

/-- **What a reply does to the rows before an article.** -/
theorem backlog_reply (h : w.Inv settings) {db : Db}
    (hdb : db.articles = w.db.articles.map (relabel assigned (w.pending.map (·.articleId))))
    (article : Article) :
    backlog settings article db
      + (w.db.articles.countP fun other =>
          article.StandsBefore other ∧ other.id ∈ w.pending.map (·.articleId))
      ≤ backlog settings article w.db := by
  unfold backlog
  rw [hdb]
  refine ahead_served (fun other _ => relabel_standsBefore) ?_ ?_
  · intro other hother
    -- a row of the batch gives up a turn; no other row changes
    by_cases hsent : other.id ∈ w.pending.map (·.articleId)
    · obtain ⟨hunrated, htries⟩ := h.unrated other hother hsent
      rw [relabel_of_mem hsent]
      exact le_of_lt (attempted_turnsLeft hunrated htries _)
    · rw [relabel_of_not_mem hsent]
  · intro other hother hsent
    obtain ⟨hunrated, htries⟩ := h.unrated other hother hsent
    rw [relabel_of_mem hsent]
    exact attempted_turnsLeft hunrated htries _

end Turns

/-! ## §5. Waiting. -/

/-- The row of an article at two points of a run, and the turns in between: those
of the passes it waited through are its own, or those of the rows before it. -/
structure TurnsTaken (settings : Settings) (w : LoopWorld) (article : Article) (w' : LoopWorld)
    (after : Article) : Prop where
  stored : after ∈ w'.db.articles
  id : after.id = article.id
  arrived : after.fetchedAt = article.fetchedAt
  more : standing article w.db ≤ standing article w'.db
  turns : settings.classifyBatchSize * w'.waited article.id + backlog settings article w'.db
      + settings.classifyBatchSize * article.categoryAttempts
      + settings.classifyMaxAttempts.toNat * standing article w.db
    ≤ settings.classifyBatchSize * w.waited article.id + backlog settings article w.db
      + settings.classifyBatchSize * after.categoryAttempts
      + settings.classifyMaxAttempts.toNat * standing article w'.db

section Waiting

variable {P : Platform} {settings : Settings} {validate : Str → Raises (List TitleClassification)}
  {w w' w'' : LoopWorld} {event : LoopEvent} {article after later : Article}

theorem TurnsTaken.refl (hmem : article ∈ w.db.articles) :
    TurnsTaken settings w article w article :=
  ⟨hmem, rfl, rfl, le_refl _, le_refl _⟩

theorem TurnsTaken.trans (h : TurnsTaken settings w article w' after)
    (h' : TurnsTaken settings w' after w'' later) : TurnsTaken settings w article w'' later := by
  have hstanding := h'.more
  have hturns := h'.turns
  rw [standing_congr h.id h.arrived, standing_congr h.id h.arrived] at hstanding
  rw [standing_congr h.id h.arrived, standing_congr h.id h.arrived, backlog_congr h.id h.arrived,
    backlog_congr h.id h.arrived, h.id] at hturns
  refine ⟨h'.stored, h'.id.trans h.id, h'.arrived.trans h.arrived, h.more.trans hstanding, ?_⟩
  have := h.turns
  omega

/-- Rows that come in count under the stamp they have. -/
theorem ingest_turns {db : Db} {new : List Article} (harticles : db.articles = w.db.articles ++ new)
    (hmem : article ∈ w.db.articles) :
    TurnsTaken settings w article { w with db := db } article := by
  have hstanding : standing article db
      = standing article w.db + new.countP article.StandsBefore := by
    unfold standing
    rw [harticles, List.countP_append]
  -- a new row brings all its turns, and counts once among those standing before
  have hbacklog : backlog settings article db ≤ backlog settings article w.db
      + new.countP article.StandsBefore * settings.classifyMaxAttempts.toNat := by
    unfold backlog
    rw [harticles, ahead_append]
    refine Nat.add_le_add_left ((ahead_le fun other _ => turnsLeft_le other).trans ?_) _
    refine Nat.mul_le_mul_right _ (List.countP_mono_left ?_)
    intro other _ hcounted
    exact decide_eq_true (of_decide_eq_true hcounted).1
  refine ⟨?_, rfl, rfl, ?_, ?_⟩
  · show article ∈ db.articles
    rw [harticles]
    exact List.mem_append_left new hmem
  · show standing article w.db ≤ standing article db
    omega
  · show settings.classifyBatchSize * w.waited article.id + backlog settings article db + _ + _
      ≤ _ + settings.classifyMaxAttempts.toNat * standing article db
    rw [hstanding, Nat.mul_add]
    -- `omega` takes the products for atoms, once they are written alike
    rw [Nat.mul_comm] at hbacklog
    omega

/-- A pass that finishes without an article that waited takes a full batch of turns
off the rows before it. -/
theorem reply_turns (h : w.Inv settings) {db : Db} {assigned : List (Str × TitleClassification)}
    (hdb : db.articles = w.db.articles.map (relabel assigned (w.pending.map (·.articleId))))
    (hmem : article ∈ w.db.articles) :
    TurnsTaken settings w article { db := db, finished := w.finished ++ [w.offered] }
      (relabel assigned (w.pending.map (·.articleId)) article) := by
  have hturns := backlog_reply h hdb article
  have hstanding : standing article db = standing article w.db := by
    unfold standing
    rw [hdb, List.countP_map]
    apply List.countP_congr
    intro other _
    simp only [Function.comp_apply, decide_eq_true_eq, relabel_standsBefore]
  have hwaited : LoopWorld.waited { db := db, finished := w.finished ++ [w.offered] } article.id
      = w.waited article.id + if article.id ∈ w.offered then 1 else 0 := by
    unfold LoopWorld.waited
    rw [List.countP_append, List.countP_singleton]
    simp only [decide_eq_true_eq]
  refine ⟨?_, relabel_id _ _ _, relabel_arrived article, le_of_eq hstanding.symm, ?_⟩
  · show _ ∈ db.articles
    rw [hdb]
    exact List.mem_map_of_mem hmem
  rw [hwaited]
  show _ + backlog settings article db + _ + _ ≤ _ + _ * standing article db
  rw [hstanding]
  by_cases hsent : article.id ∈ w.pending.map (·.articleId)
  · -- it has been tried once more
    rw [relabel_of_mem hsent, (attempted_labelled article _).attempts, Nat.mul_add, Nat.mul_add]
    split
    · omega
    · omega
  · rw [relabel_of_not_mem hsent]
    split
    · next hoffered =>
        -- it was left out, so the batch is full and of older rows
        obtain ⟨hfull, hbefore⟩ := h.oldest article hmem hoffered hsent
        have hlength := backlog_full h hsent hbefore
        rw [hfull] at hlength
        rw [Nat.mul_add, Nat.mul_one]
        omega
    · rw [Nat.add_zero]
      omega

/-- **One step.** -/
theorem loopStep_turns (h : w.Inv settings)
    (hstep : loopStep P settings validate w event = some w') (hmem : article ∈ w.db.articles) :
    ∃ after, TurnsTaken settings w article w' after := by
  cases event with
  | pass event =>
      cases event with
      | ingest jobs seen =>
          obtain rfl := Option.some.inj hstep
          obtain ⟨new, harticles, -, -⟩ := persistAttempts_ingests P jobs w.db seen
          exact ⟨article, ingest_turns harticles hmem⟩
      -- a query takes no turn, and neither does a pass that raises
      | load now rows =>
          obtain ⟨-, rfl⟩ := loop_load_cases hstep
          exact ⟨article, hmem, rfl, rfl, le_refl _, le_refl _⟩
      | reply client =>
          obtain rfl := loop_reply_cases hstep
          exact ⟨_, reply_turns h (finishPass_articles h.toInv client) hmem⟩
  | crash =>
      obtain rfl := loop_crash_cases hstep
      exact ⟨article, hmem, rfl, rfl, le_refl _, le_refl _⟩

/-- **A run.** -/
theorem loopRun_turns {events : List LoopEvent} (h : w.Inv settings)
    (hrun : Run (loopStep P settings validate) w events w') (hmem : article ∈ w.db.articles) :
    ∃ after, TurnsTaken settings w article w' after := by
  induction hrun generalizing article with
  | nil w => exact ⟨article, TurnsTaken.refl hmem⟩
  | cons hstep _ ih =>
      obtain ⟨next, hnext⟩ := loopStep_turns h hstep hmem
      obtain ⟨after, hafter⟩ := ih (loopStep_inv h hstep) hnext.stored
      exact ⟨after, hnext.trans hafter⟩

end Waiting

/-- The unjudged rows that arrived no later than an article, with those that came
in later under an earlier stamp. -/
def waitsBehind (settings : Settings) (article : Article) (w w' : LoopWorld) : Nat :=
  unjudgedBefore settings article w.db + (standing article w'.db - standing article w.db)

/-- **THE BACKLOG DRAINS IN THE ORDER OF ARRIVAL.**  Whatever the client answers,
whatever comes in and however many passes raise: no pass leaves an article out for
one that arrived later, and after `k * attempts / size + attempts` finished passes that
could have taken it, `k` being the unjudged articles that arrived no later, it is
rated or out of attempts. -/
theorem backlog_drains {P : Platform} {settings : Settings}
    {validate : Str → Raises (List TitleClassification)} (hsize : 0 < settings.classifyBatchSize)
    {db : Db} (hkeys : (db.articles.map (·.id)).Nodup) {events later : List LoopEvent}
    {w w' : LoopWorld} (hrun : Run (loopStep P settings validate) { db := db } events w)
    {article : Article} (hmem : article ∈ w.db.articles)
    (hlater : Run (loopStep P settings validate) w later w') :
    (article.id ∈ w.offered → article.id ∉ w.pending.map (·.articleId) →
        ∀ other ∈ w.db.articles, other.id ∈ w.pending.map (·.articleId) →
          other.fetchedAt ≤ article.fetchedAt)
      ∧ ∃ after ∈ w'.db.articles, after.id = article.id ∧
        (waitsBehind settings article w w' * settings.classifyMaxAttempts.toNat
              / settings.classifyBatchSize
            + settings.classifyMaxAttempts.toNat ≤ w'.waited article.id - w.waited article.id →
          after.emotionalSalience ≠ none
            ∨ settings.classifyMaxAttempts ≤ after.categoryAttempts) := by
  have hinv : w.Inv settings :=
    hrun.invariant (fun _ _ _ h hstep => loopStep_inv h hstep) (idle_inv hkeys)
  constructor
  · intro hoffered hout
    exact (hinv.oldest article hmem hoffered hout).2
  obtain ⟨after, htaken⟩ := loopRun_turns hinv hlater hmem
  refine ⟨after, htaken.stored, htaken.id, ?_⟩
  intro hlong
  by_contra hopen
  obtain ⟨-, htries⟩ := not_or.mp hopen
  have htried : after.categoryAttempts + 1 ≤ settings.classifyMaxAttempts.toNat := by omega
  have hahead : backlog settings article w.db
      ≤ unjudgedBefore settings article w.db * settings.classifyMaxAttempts.toNat :=
    ahead_le fun other _ => turnsLeft_le other
  -- all the turns before it, of those there are and those that came in
  have hbehind : backlog settings article w.db
      + settings.classifyMaxAttempts.toNat * standing article w'.db
      ≤ waitsBehind settings article w w' * settings.classifyMaxAttempts.toNat
        + settings.classifyMaxAttempts.toNat * standing article w.db := by
    have hsplit : standing article w'.db = standing article w.db
        + (standing article w'.db - standing article w.db) := by
      have := htaken.more
      omega
    rw [hsplit, waitsBehind, Nat.add_mul, Nat.mul_add]
    rw [Nat.mul_comm _ (standing article w'.db - standing article w.db)]
    omega
  have hfloor := Nat.lt_mul_div_succ
    (waitsBehind settings article w w' * settings.classifyMaxAttempts.toNat) hsize
  generalize waitsBehind settings article w w' * settings.classifyMaxAttempts.toNat
    / settings.classifyBatchSize = full at hlong hfloor
  have hpasses : settings.classifyBatchSize
      * (full + settings.classifyMaxAttempts.toNat + w.waited article.id)
      ≤ settings.classifyBatchSize * w'.waited article.id := by
    apply Nat.mul_le_mul_left
    omega
  have hmore := Nat.mul_le_mul_left settings.classifyBatchSize htried
  have hturns := htaken.turns
  rw [Nat.mul_add, Nat.mul_add] at hpasses
  rw [Nat.mul_add] at hmore hfloor
  omega

/-- One headline a pass, tried once. -/
def oneAtATime : Settings :=
  { defaultSettings with classifyBatchSize := 1, classifyMaxAttempts := 1 }

/-- Two passes over two stories of one arrival; the client answers neither. -/
def twoPasses : List LoopEvent :=
  [.load (seconds 1790000000) (unclassifiedRows oneAtATime twoCities (seconds 1790000000)),
    .reply fun _ _ => .raised "timeout".toList,
    .load (seconds 1790000030)
      ((unclassifiedRows oneAtATime twoCities (seconds 1790000000)).drop 1),
    .reply fun _ _ => .raised "timeout".toList].map .pass

theorem backlog_drains_unanswered :
    ∃ w, Run (loopStep feedless oneAtATime secondOnly) { db := twoCities } twoPasses w
      ∧ ∃ after ∈ w.db.articles, after.id = metroId ∧ (after.emotionalSalience ≠ none
          ∨ oneAtATime.classifyMaxAttempts ≤ after.categoryAttempts) := by
  have hok : ∃ w ∈ exec (loopStep feedless oneAtATime secondOnly) { db := twoCities } twoPasses,
      waitsBehind oneAtATime (articleOf 2 metroId "Metro opens".toList) { db := twoCities } w = 1
        ∧ w.waited metroId = 2 := by
    decide +kernel
  obtain ⟨w, hexec, hbehind, hwaited⟩ := hok
  have hrun := run_iff_exec.mpr hexec
  have hkeys : (twoCities.articles.map (·.id)).Nodup := by decide
  have hmem : articleOf 2 metroId "Metro opens".toList ∈ twoCities.articles := by decide
  obtain ⟨-, after, hafter, hid, hsettled⟩ :=
    backlog_drains (by decide) hkeys (Run.nil _) hmem hrun
  refine ⟨w, hrun, after, hafter, hid, hsettled ?_⟩
  -- one article stood before it, and it has a turn of its own
  rw [hbehind]
  exact le_of_eq hwaited.symm

end Feedcast
