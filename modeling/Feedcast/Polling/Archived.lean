/-
  Feedcast.Polling.Archived — sources archived while a pass is under way
  (`services/scheduler.py`).

  A pass loads its targets in one session and persists their fetches in another,
  and an archive can land anywhere in between.  `persist_attempts` passes over a
  source whose row is gone; an archived row is not gone:

    • `ArchivedSkipped` — that a pass leaves alone what it finds archived,
    • `Pass.step_owes` — a source that a pass reaches is persisted, and reported,
    • `ArchiveLog.Owed.not_skipped` — archived or not,
    • `archivedSkipped_exact` — so the promise is kept exactly where no pass
      reaches an archived source, whatever the interleaving,
    • `archivedMidTick_persisted` — an archive between the fetch and the persist.
-/
import Feedcast.Polling.Bookkeeping

namespace Feedcast

open Feedcast.Lib

/-! ## §1. The property. -/

/-- The row that the next attempt of a pass finds. -/
def Pass.reaching (db : Db) (pass : Pass) : Option Source :=
  match pass.phase with
  | .persisting (fetched :: _) _ _ none => db.getSource fetched.attempt.sourceId
  | _ => none

/-- The pass that takes up its next attempt, and the row it finds. -/
def World.reaching (w : World) : WorldAction → Option (Nat × Source)
  | .pass index .openNext =>
      ((w.passes[index]?).bind (·.reaching w.db)).map fun source => (index, source)
  | _ => none

/-- What a pass has found archived: the pass, and the source. -/
def World.reachingArchived (w : World) (action : WorldAction) : Option (Nat × Nat) :=
  ((w.reaching action).filter fun found => found.2.archivedAt.isSome).map fun found =>
    (found.1, found.2.id)

/-- The world, what its passes have found archived, and the database before and
after each of their commits. -/
structure ArchiveLog where
  world : World
  reached : List (Nat × Nat) := []
  commits : List (Nat × Db × Db) := []

def ArchiveLog.start (db : Db) : ArchiveLog where
  world := World.start db

def archiveStep (P : Platform) (settings : Settings) (log : ArchiveLog) (action : WorldAction) :
    Option ArchiveLog := do
  let world ← log.world.step P settings action
  return { world := world
           reached := log.reached ++ (log.world.reachingArchived action).toList
           commits := match action with
             | .pass index .commit => log.commits ++ [(index, log.world.db, world.db)]
             | _ => log.commits }

/-- **A pass has left a source alone**: it has inserted no article of it, changed
no column of its bookkeeping, and reported no outcome for it. -/
structure Skipped (log : ArchiveLog) (index sourceId : Nat) : Prop where
  articles : ∀ before after, (index, before, after) ∈ log.commits →
    ∀ article ∈ after.articles, article.sourceId = sourceId → article ∈ before.articles
  bookkeeping : ∀ before after, (index, before, after) ∈ log.commits →
    (after.getSource sourceId).map (·.bookkeeping)
      = (before.getSource sourceId).map (·.bookkeeping)
  unreported : ∀ pass, log.world.passes[index]? = some pass →
    ∀ outcome ∈ pass.outcomes, outcome.sourceId ≠ sourceId

/-- **Every pass has left alone what it found archived.** -/
def ArchivedSkipped (log : ArchiveLog) : Prop :=
  ∀ index sourceId, (index, sourceId) ∈ log.reached → Skipped log index sourceId

/-- An attempt that finds its source live, or gone. -/
def ReachesLive (log : ArchiveLog) (action : WorldAction) : Prop :=
  ∀ index source, log.world.reaching action = some (index, source) → source.archivedAt = none

/-- Every pass has returned. -/
def World.AtRest (w : World) : Prop :=
  ∀ pass ∈ w.passes, ∃ outcomes, pass.phase = .returned outcomes

/-! ## §2. What a pass owes a source it has reached. -/

/-- A transaction on a source, whose outcome will be that source's. -/
structure OpenTxn.On (txn : OpenTxn) (sourceId : Nat) : Prop where
  attempt : txn.fetched.attempt.sourceId = sourceId
  loaded : txn.loaded.id = sourceId
  outcome : ∀ recovery ingested, txn.stage = .ready recovery ingested →
    ingested.outcome.sourceId = sourceId

/-- The outcome of a source is reported, or its transaction is open. -/
def Pass.Owes (pass : Pass) (sourceId : Nat) : Prop :=
  (∃ outcome ∈ pass.outcomes, outcome.sourceId = sourceId)
    ∨ ∃ todo seen outcomes txn,
        pass.phase = .persisting todo seen outcomes (some txn) ∧ txn.On sourceId

/-- A statement of a transaction leaves it on its source. -/
theorem OpenTxn.Effect.on {P : Platform} {db : Db} {taken : List Str} {fetched : Fetched}
    {loaded : Source} {seen seen' : List Str} {action : PassAction} {stage stage' : TxnStage}
    {sourceId : Nat}
    (heffect : OpenTxn.Effect P db taken fetched loaded seen action stage seen' stage')
    (h : OpenTxn.On ⟨fetched, loaded, stage⟩ sourceId) :
    OpenTxn.On ⟨fetched, loaded, stage'⟩ sourceId := by
  obtain ⟨hattempt, hloaded, -⟩ := h
  have hloaded' : loaded.id = sourceId := hloaded
  refine ⟨hattempt, hloaded, ?_⟩
  intro recovery ingested hready
  -- three statements make a transaction ready, and each keeps the id of its row
  cases heffect with
  | unfetched w hfetch =>
      cases hready
      exact hloaded
  | parseDone w hfetch hparse =>
      cases hready
      rcases parseResult_eq_done hparse with ⟨source', -, rfl⟩ | ⟨error, rfl⟩
      · exact hloaded
      · exact hloaded
  | recorded hrecord =>
      cases hready
      obtain ⟨source', -, rfl⟩ := recordInserted_eq hrecord
      exact hloaded
  | _ => cases hready

/-- **A source that a pass has reached is persisted, and reported.** -/
theorem Pass.step_owes {P : Platform} {db db' : Db} {taken : List Str} {pass pass' : Pass}
    {action : PassAction} {sourceId : Nat} (h : pass.Owes sourceId)
    (hstep : pass.step P db taken action = some (db', pass')) : pass'.Owes sourceId := by
  obtain ⟨-, heffect⟩ := Pass.step_effect hstep
  obtain ⟨city, phase⟩ := pass
  obtain ⟨city', phase'⟩ := pass'
  rcases h with ⟨outcome, hmem, hid⟩ | ⟨todo, seen, outcomes, txn, hphase, hon⟩
  · -- reported: an outcome is never taken back
    refine Or.inl ⟨outcome, ?_, hid⟩
    cases heffect with
    | respond slot attemptedAt fetched hslot => cases hmem
    | startPersist hreturned => cases hmem
    | commit fetched loaded recovery ingested todo seen outcomes =>
        exact List.mem_append_left _ hmem
    | _ => exact hmem
  · obtain rfl : phase = .persisting todo seen outcomes (some txn) := hphase
    -- the transaction goes on, is opened again, or commits its outcome
    cases heffect with
    | statement todo outcomes heffect =>
        exact Or.inr ⟨_, _, _, _, rfl, heffect.on hon⟩
    | recover fetched loaded exc todo seen outcomes hget =>
        have hsource := (getRow_some Source.id hget).2
        refine Or.inr ⟨_, _, _, _, rfl, hon.attempt, hsource.trans hon.attempt, ?_⟩
        intro recovery ingested hready
        cases hready
        exact hsource.trans hon.attempt
    | commit fetched loaded recovery ingested todo seen outcomes =>
        exact Or.inl ⟨_, List.mem_append_right _ (List.mem_singleton_self _),
          hon.outcome recovery ingested rfl⟩

/-- The transaction of the source that a pass takes up. -/
theorem Pass.openNext_owes {P : Platform} {db db' : Db} {taken : List Str} {pass pass' : Pass}
    {source : Source} (hreaching : pass.reaching db = some source)
    (hstep : pass.step P db taken .openNext = some (db', pass')) : pass'.Owes source.id := by
  obtain ⟨-, heffect⟩ := Pass.step_effect hstep
  obtain ⟨city, phase⟩ := pass
  obtain ⟨city', phase'⟩ := pass'
  cases heffect with
  | gone fetched todo seen outcomes hget =>
      -- the only attempt that is passed over, and here there is a row
      have hsome : db.getSource fetched.attempt.sourceId = some source := hreaching
      rw [hget] at hsome
      cases hsome
  | opened fetched todo seen outcomes hget =>
      have hsome : db.getSource fetched.attempt.sourceId = some source := hreaching
      obtain rfl := Option.some.inj (hget.symm.trans hsome)
      have hid := (getRow_some Source.id hget).2
      refine Or.inr ⟨todo, seen, outcomes, _, rfl, hid.symm, rfl, ?_⟩
      intro recovery ingested hready
      cases hready
  | statement todo outcomes heffect => cases heffect

/-- A pass that has returned has reported what it owed. -/
theorem Pass.Owes.reported {pass : Pass} {sourceId : Nat} (h : pass.Owes sourceId)
    {outcomes : List SourceIngestOutcome} (hreturned : pass.phase = .returned outcomes) :
    ∃ outcome ∈ pass.outcomes, outcome.sourceId = sourceId := by
  rcases h with h | ⟨_, _, _, _, hphase, -⟩
  · exact h
  · rw [hreturned] at hphase
    cases hphase

/-! ## §3. Steps. -/

section Step

variable {P : Platform} {settings : Settings}

/-- A step of the world leaves every pass where it was, and owing what it owed. -/
theorem World.step_owes {w w' : World} {action : WorldAction} {index sourceId : Nat} {pass : Pass}
    (hstep : w.step P settings action = some w') (hget : w.passes[index]? = some pass)
    (h : pass.Owes sourceId) : ∃ pass', w'.passes[index]? = some pass' ∧ pass'.Owes sourceId := by
  cases World.step_effect hstep with
  | begin city targets refreshing =>
      -- a new pass goes to the end of the list
      have hlt := (List.getElem?_eq_some_iff.mp hget).1
      exact ⟨pass, (List.getElem?_append_left hlt).trans hget, h⟩
  | pass stepped action pass₀ pass' db hget₀ hpass =>
      have hlt := (List.getElem?_eq_some_iff.mp hget).1
      by_cases hsame : stepped = index
      · subst hsame
        obtain rfl := Option.some.inj (hget.symm.trans hget₀)
        exact ⟨pass', List.getElem?_set_self hlt, Pass.step_owes h hpass⟩
      · exact ⟨pass, (List.getElem?_set_ne hsame).trans hget, h⟩
  | _ => exact ⟨pass, hget, h⟩

/-- A pass owes what it takes up. -/
theorem World.step_takes_up {w w' : World} {action : WorldAction} {index : Nat} {source : Source}
    (hstep : w.step P settings action = some w')
    (hreaching : w.reaching action = some (index, source)) :
    ∃ pass, w'.passes[index]? = some pass ∧ pass.Owes source.id := by
  unfold World.reaching at hreaching
  split at hreaching
  · obtain ⟨found, hfound, hpair⟩ := Option.map_eq_some_iff.mp hreaching
    obtain ⟨rfl, rfl⟩ := Prod.mk.inj hpair
    obtain ⟨pass, hget, hrow⟩ := Option.bind_eq_some_iff.mp hfound
    -- the step that reaches a source is its own pass opening it
    obtain ⟨pass₀, pass', hget₀, hpass, hpasses⟩ := World.step_pass hstep
    obtain rfl := Option.some.inj (hget.symm.trans hget₀)
    have hlt := (List.getElem?_eq_some_iff.mp hget).1
    refine ⟨pass', ?_, Pass.openNext_owes hrow hpass⟩
    rw [hpasses]
    exact List.getElem?_set_self hlt
  · cases hreaching

/-- What a step records. -/
theorem archiveStep_eq {log log' : ArchiveLog} {action : WorldAction}
    (hstep : archiveStep P settings log action = some log') :
    log.world.step P settings action = some log'.world
      ∧ log'.reached = log.reached ++ (log.world.reachingArchived action).toList := by
  obtain ⟨world, hworld, hlog⟩ := Option.bind_eq_some_iff.mp hstep
  obtain rfl := Option.some.inj hlog
  exact ⟨hworld, rfl⟩

/-- Where a step reaches no archived source there is nothing to record. -/
theorem reachesLive_iff {log : ArchiveLog} {action : WorldAction} :
    ReachesLive log action ↔ log.world.reachingArchived action = none := by
  unfold World.reachingArchived ReachesLive
  cases hreaching : log.world.reaching action with
  | none => simp
  | some found =>
      obtain ⟨index, source⟩ := found
      cases harchived : source.archivedAt with
      | none => simp [harchived]
      | some now => simp [harchived]

/-- **The books**: what a pass has found archived, it owes. -/
def ArchiveLog.Owed (log : ArchiveLog) : Prop :=
  ∀ index sourceId, (index, sourceId) ∈ log.reached →
    ∃ pass, log.world.passes[index]? = some pass ∧ pass.Owes sourceId

theorem archiveStep_owed {log log' : ArchiveLog} {action : WorldAction} (h : log.Owed)
    (hstep : archiveStep P settings log action = some log') : log'.Owed := by
  obtain ⟨hworld, hreached⟩ := archiveStep_eq hstep
  intro index sourceId hmem
  rw [hreached] at hmem
  rcases List.mem_append.mp hmem with hold | hnew
  · obtain ⟨pass, hget, howes⟩ := h index sourceId hold
    exact World.step_owes hworld hget howes
  · obtain ⟨found, hfound, hpair⟩ := Option.map_eq_some_iff.mp (Option.mem_toList.mp hnew)
    obtain ⟨rfl, rfl⟩ := Prod.mk.inj hpair
    exact World.step_takes_up hworld (Option.filter_eq_some_iff.mp hfound).1

/-- A step that has recorded nothing started from nothing, and reached nothing
archived. -/
theorem archiveStep_back {log log' : ArchiveLog} {action : WorldAction}
    (h : log'.reached = []) (hstep : archiveStep P settings log action = some log') :
    log.reached = [] ∧ ReachesLive log action := by
  rw [(archiveStep_eq hstep).2] at h
  obtain ⟨hold, hnew⟩ := List.append_eq_nil_iff.mp h
  exact ⟨hold, reachesLive_iff.mpr (Option.toList_eq_nil_iff.mp hnew)⟩

theorem archiveStep_reached {log log' : ArchiveLog} {action : WorldAction}
    (h : log.reached = []) (hlive : ReachesLive log action)
    (hstep : archiveStep P settings log action = some log') : log'.reached = [] := by
  rw [(archiveStep_eq hstep).2, h, reachesLive_iff.mp hlive]
  rfl

/-- **A pass that has returned has skipped nothing that it found archived.** -/
theorem ArchiveLog.Owed.not_skipped {log : ArchiveLog} (h : log.Owed) {index sourceId : Nat}
    (hmem : (index, sourceId) ∈ log.reached) {pass : Pass}
    (hget : log.world.passes[index]? = some pass) {outcomes : List SourceIngestOutcome}
    (hreturned : pass.phase = .returned outcomes) : ¬ Skipped log index sourceId := by
  intro hskipped
  obtain ⟨owing, hget', howes⟩ := h index sourceId hmem
  obtain rfl := Option.some.inj (hget.symm.trans hget')
  obtain ⟨outcome, hreported, hid⟩ := howes.reported hreturned
  exact hskipped.unreported pass hget outcome hreported hid

/-- At rest, what has left alone all it found archived has found nothing archived. -/
theorem ArchiveLog.Owed.unreached {log : ArchiveLog} (h : log.Owed) (hrest : log.world.AtRest)
    (hskipped : ArchivedSkipped log) : log.reached = [] := by
  refine List.eq_nil_iff_forall_not_mem.mpr ?_
  intro reach hmem
  obtain ⟨index, sourceId⟩ := reach
  obtain ⟨pass, hget, -⟩ := h index sourceId hmem
  obtain ⟨outcomes, hreturned⟩ := hrest pass (List.mem_of_getElem? hget)
  exact h.not_skipped hmem hget hreturned (hskipped index sourceId hmem)

end Step

/-! ## §4. Runs. -/

/-- **ARCHIVING TAKES EFFECT MID-TICK EXACTLY WHERE NO PASS REACHES AN ARCHIVED
SOURCE.**  In every interleaving whose attempts all find their source live or
gone, every pass has at every moment left alone what it found archived; and an
interleaving in which every pass has returned, and has left alone what it found
archived, is one of these. -/
theorem archivedSkipped_exact (P : Platform) (settings : Settings) (db : Db)
    (actions : List WorldAction) :
    (Along (archiveStep P settings) ReachesLive (ArchiveLog.start db) actions →
        Throughout (archiveStep P settings) ArchivedSkipped (ArchiveLog.start db) actions)
      ∧ ∀ log, Run (archiveStep P settings) (ArchiveLog.start db) actions log →
          log.world.AtRest → ArchivedSkipped log →
            Along (archiveStep P settings) ReachesLive (ArchiveLog.start db) actions := by
  constructor
  · -- nothing archived is ever reached, so nothing is to be skipped
    intro hlive pre hpre log hrun
    have hnone := invariant_along (I := fun log : ArchiveLog => log.reached = [])
      (fun _ _ _ h hC hstep => archiveStep_reached h hC hstep) rfl hlive pre hpre log hrun
    intro index sourceId hmem
    rw [hnone] at hmem
    cases hmem
  · intro log hrun hrest hskipped
    have hstart : (ArchiveLog.start db).Owed := by
      intro index sourceId hmem
      cases hmem
    -- whoever is reached is owed an outcome, or has one already
    have howed : log.Owed :=
      hrun.invariant (fun _ _ _ h hstep => archiveStep_owed h hstep) hstart
    -- at rest everything owed is reported, and a skipped source is not
    have hnone : log.reached = [] := howed.unreached hrest hskipped
    exact (hrun.along_back (I := fun log : ArchiveLog => log.reached = [])
      (fun _ _ _ h hstep => archiveStep_back h hstep) hnone).2

/-! ## §5. An archive between the fetch and the persist. -/

/-- A tick fetches both feeds, the first source is archived, and the tick
persists. -/
def archivedMidTick : List WorldAction :=
  let targets := [(testTimes.row 1 1).target, (testTimes.row 2 1).target]
  let page : Except Str FetchResult :=
    .ok { statusCode := 200, headers := versioned, content := [], finalUrl := testTimes.feedUrl }
  [.beginTick 0 targets, .pass 0 (.respond 0 0 page), .pass 0 (.respond 1 0 page),
    .call (.archiveSource 1 5),
    .pass 0 .startPersist,
    .pass 0 .openNext, .pass 0 (.parse calm), .pass 0 (.insertRow 0), .pass 0 .finishInsert,
    .pass 0 .commit,
    .pass 0 .openNext, .pass 0 (.parse calm), .pass 0 .finishInsert, .pass 0 .commit,
    .pass 0 .finish]

/-- The archived source is persisted like the other: an article, a fetch on its
row, and an outcome. -/
theorem archivedMidTick_persisted :
    ∃ log, Run (archiveStep oneStory defaultSettings) (ArchiveLog.start twoSources)
        archivedMidTick log
      ∧ (0, 1) ∈ log.reached ∧ log.world.db.articles.map (·.sourceId) = [1]
      ∧ (log.world.db.getSource 1).map (·.lastFetchedAt) = some (some 0)
      ∧ ¬ ArchivedSkipped log := by
  have hok : ∃ log ∈ exec (archiveStep oneStory defaultSettings) (ArchiveLog.start twoSources)
      archivedMidTick,
      (0, 1) ∈ log.reached ∧ log.world.db.articles.map (·.sourceId) = [1]
        ∧ (log.world.db.getSource 1).map (·.lastFetchedAt) = some (some 0)
        ∧ log.world.passes.map (·.outcomes.map (·.sourceId)) = [[1, 2]] := by
    decide +kernel
  obtain ⟨log, hrun, hreached, harticles, hfetched, hpasses⟩ := hok
  refine ⟨log, run_iff_exec.mpr hrun, hreached, harticles, hfetched, ?_⟩
  intro hskipped
  obtain ⟨pass, hget, hreported⟩ : ∃ pass, log.world.passes[0]? = some pass
      ∧ pass.outcomes.map (·.sourceId) = [1, 2] := by
    refine Option.map_eq_some_iff.mp ?_
    rw [← List.getElem?_map, hpasses]
    rfl
  -- source 1 was archived and is among the outcomes
  have hmem : 1 ∈ pass.outcomes.map (·.sourceId) := by
    rw [hreported]
    exact List.mem_cons_self
  obtain ⟨outcome, houtcome, hid⟩ := List.mem_map.mp hmem
  exact (hskipped 0 1 hreached).unreported pass hget outcome houtcome hid

end Feedcast
