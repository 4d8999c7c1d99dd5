/-
  Feedcast.Carousels.Evidence — the selections log.

  A pick is recorded where a deck is committed to: by a create, for the stories
  it resolves, and by an add, for those the deck does not hold yet.  A delete
  takes the carousel out of its picks and leaves the picks.

    • `GalleryOp.log` — what one request does to the log,
    • `run_log` — what a run does: the old rows in their places, the picks of
      its requests behind them,
    • `selections_evidence` — both, for every run.
-/
import Feedcast.Api.Carousels

namespace Feedcast

open Feedcast.Lib

/-! ## §1. Requests. -/

/-- A request to the gallery, or a change of the other tables between two. -/
inductive GalleryOp (settings : Settings) where
  | request (call : CarouselCall settings)
  | read (carouselId : Nat)
  /-- What polling, the classifier and the onboarding of cities leave. -/
  | elsewhere (cities : List City) (sources : List Source) (articles : List Article)

def GalleryOp.run {settings : Settings} (P : Platform) (db : Db) :
    GalleryOp settings → Handler Db
  | .request call => call.run P db
  | .read carouselId => (readCarousel P settings db carouselId).map fun _ => db
  | .elsewhere cities sources articles =>
      .ok { db with cities := cities, sources := sources, articles := articles }

def galleryStep {settings : Settings} (P : Platform) (db : Db) (op : GalleryOp settings) :
    Option Db :=
  match op.run P db with
  | .ok db' => some db'
  | .error _ => some db

/-! ## §2. The log. -/

section Log

variable {settings : Settings} (P : Platform) (db : Db)

/-- The stories a request picks: the distinct ones a create resolves, and of
those an add resolves the ones its deck does not name. -/
def GalleryOp.picks (op : GalleryOp settings) : List Str :=
  match op.run P db with
  | .error _ => []
  | .ok _ =>
      match op with
      | .request (.create data _) =>
          (dedupe data.storyIds).filter fun id => (storyRow db id).isSome
      | .request (.addStories carouselId data _) => newStories db carouselId data.storyIds
      | _ => []

/-- The carousel a request deletes. -/
def GalleryOp.deletes (op : GalleryOp settings) : List Nat :=
  match op.run P db with
  | .error _ => []
  | .ok _ =>
      match op with
      | .request (.delete carouselId) => [carouselId]
      | _ => []

/-- The picks of a run, in order. -/
def picksOf : Db → List (GalleryOp settings) → List Str
  | _, [] => []
  | db, op :: ops => op.picks P db ++ ((galleryStep P db op).elim [] fun db' => picksOf db' ops)

/-- The carousels a run deletes. -/
def deletionsOf : Db → List (GalleryOp settings) → List Nat
  | _, [] => []
  | db, op :: ops =>
      op.deletes P db ++ ((galleryStep P db op).elim [] fun db' => deletionsOf db' ops)

end Log

/-- A row of the log once these carousels are gone: only its link changes. -/
def Selection.forgetAll (deleted : List Nat) (selection : Selection) : Selection :=
  if ∃ id ∈ deleted, selection.carouselId = some id then { selection with carouselId := none }
  else selection

/-- The carousel a request picks stories for. -/
def GalleryOp.deck {settings : Settings} (db : Db) : GalleryOp settings → Option Nat
  | .request (.create _ _) => some db.nextCarousel
  | .request (.addStories carouselId _ _) => some carouselId
  | _ => none

/-- **The evidence of a pick**: the score the story has when it is picked, and
whether it has been rated. -/
structure Evidence (settings : Settings) (db : Db) (deck : Option Nat) (pick : Selection) :
    Prop where
  scored : ∃ row, storyRow db pick.articleId = some row
    ∧ pick.score = articleScore settings row.rankInputs
    ∧ pick.engagement = (row.rankInputs.levels.map fun _ => pick.score)
    ∧ pick.scoreVersion = (row.rankInputs.levels.map fun _ => currentScoreVersion)
  linked : pick.carouselId = deck

/-- **What one request does to the log.** -/
def LogKept {settings : Settings} (P : Platform) (db : Db) (op : GalleryOp settings) : Prop :=
  ∀ db', galleryStep P db op = some db' →
    ∃ rows, db'.selections = db.selections.map (Selection.forgetAll (op.deletes P db)) ++ rows
      ∧ (rows.map (·.articleId)).Perm (op.picks P db)
      ∧ (op.picks P db).Nodup
      ∧ ∀ pick ∈ rows, Evidence settings db (op.deck db) pick

/-! ## §3. Rows. -/

theorem forgetAll_nil : Selection.forgetAll [] = id := by
  funext selection
  simp [Selection.forgetAll]

theorem forgetAll_single (carouselId : Nat) :
    Selection.forgetAll [carouselId] = Selection.forget carouselId := by
  funext selection
  simp [Selection.forgetAll, Selection.forget]

/-- What is forgotten stays forgotten. -/
theorem forgetAll_append (first later : List Nat) (selection : Selection) :
    Selection.forgetAll later (Selection.forgetAll first selection)
      = Selection.forgetAll (first ++ later) selection := by
  -- once the id is gone there is nothing left to forget
  by_cases hfirst : ∃ id ∈ first, selection.carouselId = some id
  · obtain ⟨id, hid, hcarousel⟩ := hfirst
    have hgone : selection.forgetAll first = { selection with carouselId := none } :=
      if_pos ⟨id, hid, hcarousel⟩
    have hboth : selection.forgetAll (first ++ later) = { selection with carouselId := none } :=
      if_pos ⟨id, List.mem_append_left _ hid, hcarousel⟩
    rw [hgone, hboth]
    exact if_neg (by simp)
  · have hkept : selection.forgetAll first = selection := if_neg hfirst
    rw [hkept]
    unfold Selection.forgetAll
    congr 1
    refine propext ⟨?_, ?_⟩
    · intro h
      obtain ⟨id, hid, hcarousel⟩ := h
      exact ⟨id, List.mem_append_right _ hid, hcarousel⟩
    · intro h
      obtain ⟨id, hid, hcarousel⟩ := h
      rcases List.mem_append.mp hid with hid | hid
      · exact absurd ⟨id, hid, hcarousel⟩ hfirst
      · exact ⟨id, hid, hcarousel⟩

@[simp] theorem forgetAll_articleId (deleted : List Nat) (selection : Selection) :
    (selection.forgetAll deleted).articleId = selection.articleId := by
  unfold Selection.forgetAll
  split <;> rfl

theorem selectionRows_articles (carouselId next : Nat) (stories : List StoryRead)
    (sort : Option StorySort) :
    (selectionRows carouselId next stories sort).map (·.articleId) = stories.map (·.id) := by
  refine List.ext_getElem (by simp [selectionRows]) ?_
  intro i _ _
  simp [selectionRows]

/-- **The rows a handler records are evidence** of the stories it resolved. -/
theorem selectionRows_evidence {P : Platform} {settings : Settings} {db : Db}
    {carouselId next : Nat} {stories : List StoryRead} {sort : Option StorySort}
    (hstories : ∀ story ∈ stories,
      ∃ row, storyRow db story.id = some row ∧ story = projectStory P settings row) :
    ∀ pick ∈ selectionRows carouselId next stories sort,
      Evidence settings db (some carouselId) pick := by
  intro pick hpick
  obtain ⟨index, hi, rfl⟩ := List.mem_mapIdx.mp hpick
  obtain ⟨row, hrow, hproject⟩ := hstories _ (List.getElem_mem hi)
  -- what was projected from the row is what the log keeps of it
  refine ⟨⟨row, hrow, ?_, ?_, ?_⟩, rfl⟩
  · rw [hproject]
    rfl
  · show (if (stories[index]).engagement.isSome then some (stories[index]).score else none) = _
    rw [hproject]
    show (if row.rankInputs.levels.isSome then _ else none) = _
    cases row.rankInputs.levels <;> rfl
  · show (if (stories[index]).engagement.isSome then some currentScoreVersion else none) = _
    rw [hproject]
    show (if row.rankInputs.levels.isSome then _ else none) = _
    cases row.rankInputs.levels <;> rfl

/-- A resolved story is projected from its row as it is now. -/
theorem resolved_projected {P : Platform} {settings : Settings} {db : Db} {wanted : List Str}
    {story : StoryRead}
    (h : story ∈ (resolveRows P settings wanted (matchingRows db wanted)).stories) :
    ∃ row, storyRow db story.id = some row ∧ story = projectStory P settings row := by
  obtain ⟨row, hrow, rfl⟩ := mem_resolveRows.mp h
  obtain ⟨storyId, -, hget⟩ := mem_matchingRows.mp hrow
  refine ⟨row, ?_, rfl⟩
  rw [← hget]
  exact congrArg (storyRow db) (storyRow_id hget)

/-! ## §4. Steps. -/

section Step

variable {P : Platform} {settings : Settings} {db : Db}

theorem galleryStep_ok {op : GalleryOp settings} {db' : Db} (h : op.run P db = .ok db') :
    galleryStep P db op = some db' := by
  unfold galleryStep
  rw [h]

theorem galleryStep_refused {op : GalleryOp settings} {e : HttpError}
    (h : op.run P db = .error e) : galleryStep P db op = some db := by
  unfold galleryStep
  rw [h]

/-- A request that records its picks behind the log. -/
theorem logKept_of_recorded {op : GalleryOp settings} {db' : Db} {rows : List Selection}
    (hrun : op.run P db = .ok db') (hlog : db'.selections = db.selections ++ rows)
    (hdeletes : op.deletes P db = []) (hpicks : (rows.map (·.articleId)).Perm (op.picks P db))
    (hnodup : (op.picks P db).Nodup)
    (hevidence : ∀ pick ∈ rows, Evidence settings db (op.deck db) pick) : LogKept P db op := by
  intro db'' hstep
  rw [galleryStep_ok hrun] at hstep
  cases hstep
  refine ⟨rows, ?_, hpicks, hnodup, hevidence⟩
  rw [hdeletes, forgetAll_nil, List.map_id]
  exact hlog

/-- A request that leaves the log alone, and picks and deletes nothing. -/
theorem logKept_of_same {op : GalleryOp settings}
    (hsame : ∀ db', galleryStep P db op = some db' → db'.selections = db.selections)
    (hpicks : op.picks P db = []) (hdeletes : op.deletes P db = []) : LogKept P db op := by
  intro db' hstep
  refine ⟨[], ?_, ?_, ?_, ?_⟩
  · rw [hsame db' hstep, hdeletes, forgetAll_nil, List.map_id, List.append_nil]
  · rw [hpicks]
    exact List.Perm.nil
  · rw [hpicks]
    exact List.nodup_nil
  · intro pick hpick
    cases hpick

/-- A refused request leaves the log alone. -/
theorem logKept_of_refused {op : GalleryOp settings} {e : HttpError}
    (hrun : op.run P db = .error e) : LogKept P db op := by
  refine logKept_of_same ?_ ?_ ?_
  · intro db' hstep
    rw [galleryStep_refused hrun] at hstep
    cases hstep
    rfl
  · unfold GalleryOp.picks
    rw [hrun]
  · unfold GalleryOp.deletes
    rw [hrun]

theorem createCarousel_log {data : CarouselRequest settings} {now : Time} {db' : Db}
    (hrun : (GalleryOp.request (.create data now)).run P db = .ok db') :
    LogKept P db (.request (.create data now)) := by
  obtain ⟨⟨_, r⟩, hcreate, rfl⟩ := except_map_ok.mp hrun
  obtain ⟨resolved, city, slides, hresolved, -, -, rfl⟩ := createCarousel_ok hcreate
  obtain ⟨-, -, rfl⟩ := resolveSelection_ok.mp hresolved
  have hids := resolveRows_ids P settings db (dedupe data.storyIds)
  -- every known story of the request, each once
  have hpicks : (GalleryOp.request (.create data now)).picks P db
      = (dedupe data.storyIds).filter fun id => (storyRow db id).isSome := by
    unfold GalleryOp.picks
    rw [hrun]
  refine logKept_of_recorded hrun rfl ?_ ?_ ?_ ?_
  · unfold GalleryOp.deletes
    rw [hrun]
  · rw [hpicks, selectionRows_articles]
    exact hids
  · rw [hpicks]
    exact (dedupe_nodup data.storyIds).filter _
  · exact selectionRows_evidence fun story hstory => resolved_projected hstory

theorem addStories_log {carouselId : Nat} {data : CarouselRequest settings} {now : Time} {db' : Db}
    (hrun : (GalleryOp.request (.addStories carouselId data now)).run P db = .ok db') :
    LogKept P db (.request (.addStories carouselId data now)) := by
  obtain ⟨⟨_, r⟩, hadd, rfl⟩ := except_map_ok.mp hrun
  obtain ⟨carousel, edit, hc, hedit, rfl⟩ := addStories_ok hadd
  obtain ⟨-, rfl⟩ := getCarousel_id hc
  obtain ⟨resolved, hresolved, hfresh, -, -, -⟩ := addDeck_ok hedit
  obtain ⟨-, -, rfl⟩ := resolveSelection_ok.mp hresolved
  have hids := freshStories_ids P settings db carousel.id data.storyIds
  -- only the stories that were not in the deck
  have hpicks : (GalleryOp.request (.addStories carousel.id data now)).picks P db
      = newStories db carousel.id data.storyIds := by
    unfold GalleryOp.picks
    rw [hrun]
  refine logKept_of_recorded hrun rfl ?_ ?_ ?_ ?_
  · unfold GalleryOp.deletes
    rw [hrun]
  · rw [hpicks, selectionRows_articles, hfresh]
    exact hids
  · rw [hpicks]
    exact newStories_nodup db carousel.id data.storyIds
  · refine selectionRows_evidence (P := P) ?_
    intro story hstory
    rw [hfresh] at hstory
    exact resolved_projected (List.mem_of_mem_filter hstory)

/-- A delete unlinks the picks of its carousel. -/
theorem deleteCarousel_log {carouselId : Nat} {db' : Db}
    (hrun : (GalleryOp.request (.delete carouselId) : GalleryOp settings).run P db = .ok db') :
    LogKept P db (.request (.delete carouselId) : GalleryOp settings) := by
  have hrun' := hrun
  obtain ⟨carousel, hc, rfl⟩ := deleteCarousel_ok hrun'
  obtain ⟨-, rfl⟩ := getCarousel_id hc
  have hpicks : (GalleryOp.request (.delete carousel.id) : GalleryOp settings).picks P db = [] := by
    unfold GalleryOp.picks
    rw [hrun]
  -- a delete picks nothing, and the rows of the log lose the carousel
  have hdeletes : (GalleryOp.request (.delete carousel.id) : GalleryOp settings).deletes P db
      = [carousel.id] := by
    unfold GalleryOp.deletes
    rw [hrun]
  intro db'' hstep
  rw [galleryStep_ok hrun] at hstep
  cases hstep
  refine ⟨[], ?_, ?_, ?_, ?_⟩
  · rw [hdeletes, forgetAll_single, List.append_nil]
  · rw [hpicks]
    exact List.Perm.nil
  · rw [hpicks]
    exact List.nodup_nil
  · intro pick hpick
    cases hpick

/-- **One request.** -/
theorem GalleryOp.log (op : GalleryOp settings) : LogKept P db op := by
  cases hrun : op.run P db with
  | error e => exact logKept_of_refused hrun
  | ok db' =>
      have hsame : ∀ db'', galleryStep P db op = some db'' → db'' = db' := by
        intro db'' hstep
        rw [galleryStep_ok hrun] at hstep
        exact (Option.some.inj hstep).symm
      -- what neither picks nor deletes has to leave the log as it was
      have hnothing : op.picks P db = [] → op.deletes P db = [] →
          db'.selections = db.selections → LogKept P db op := by
        intro hpicks hdeletes hlog
        refine logKept_of_same ?_ hpicks hdeletes
        intro db'' hstep
        rw [hsame db'' hstep]
        exact hlog
      unfold GalleryOp.picks GalleryOp.deletes at hnothing
      rw [hrun] at hnothing
      cases op with
      | read carouselId =>
          obtain ⟨r, -, rfl⟩ := except_map_ok.mp hrun
          exact hnothing rfl rfl rfl
      | elsewhere cities sources articles =>
          cases hrun
          exact hnothing rfl rfl rfl
      | request call =>
          cases call with
          | create data now => exact createCarousel_log hrun
          | addStories carouselId data now => exact addStories_log hrun
          | save carouselId data now =>
              obtain ⟨⟨_, r⟩, hsave, rfl⟩ := except_map_ok.mp hrun
              obtain ⟨carousel, -, -, rfl⟩ := saveCarousel_ok hsave
              exact hnothing rfl rfl rfl
          | zip carouselId data now =>
              obtain ⟨⟨_, members⟩, hzip, rfl⟩ := except_map_ok.mp hrun
              obtain ⟨carousel, -, -, rfl⟩ := zipSlides_ok hzip
              exact hnothing rfl rfl rfl
          | delete carouselId => exact deleteCarousel_log hrun

end Step

/-! ## §5. Runs. -/

/-- **A run only adds to the log**: its picks, behind the rows that were there,
each of which keeps its place and all of its columns but the link to a carousel
deleted since. -/
theorem run_log {P : Platform} {settings : Settings} {db db' : Db} {ops : List (GalleryOp settings)}
    (h : Run (galleryStep P) db ops db') :
    ∃ added, db'.selections
          = db.selections.map (Selection.forgetAll (deletionsOf P db ops)) ++ added
      ∧ (added.map (·.articleId)).Perm (picksOf P db ops) := by
  induction h with
  | nil db =>
      refine ⟨[], ?_, List.Perm.nil⟩
      show db.selections = db.selections.map (Selection.forgetAll []) ++ []
      rw [forgetAll_nil, List.map_id, List.append_nil]
  | @cons db db₁ db' op ops hstep _ ih =>
      -- what this step logs may be forgotten by a delete further on
      obtain ⟨rows, hlog, hrows, -, -⟩ := GalleryOp.log op db₁ hstep
      obtain ⟨added, hlater, hadded⟩ := ih
      unfold deletionsOf picksOf
      rw [hstep]
      refine ⟨rows.map (Selection.forgetAll (deletionsOf P db₁ ops)) ++ added, ?_, ?_⟩
      · rw [hlater, hlog, List.map_append, List.map_map, List.append_assoc]
        congr 1
        refine List.map_congr_left ?_
        intro selection _
        exact forgetAll_append _ _ selection
      · have hids : (rows.map (Selection.forgetAll (deletionsOf P db₁ ops))).map (·.articleId)
            = rows.map (·.articleId) := by
          rw [List.map_map]
          exact List.map_congr_left fun selection _ => forgetAll_articleId _ selection
        rw [List.map_append, hids]
        exact hrows.append hadded

theorem galleryStep_isSome (P : Platform) {settings : Settings} (db : Db)
    (op : GalleryOp settings) : (galleryStep P db op).isSome := by
  unfold galleryStep
  split <;> rfl

/-- **THE LOG IS APPEND-ONLY AND COMPLETE**: every request adds just the rows of
its picks, and after any run every row is in its place. -/
theorem selections_evidence (P : Platform) (settings : Settings) (db : Db)
    (ops : List (GalleryOp settings)) :
    Along (galleryStep P) (LogKept P) db ops
      ∧ ∃ db', Run (galleryStep P) db ops db'
        ∧ ∃ added, db'.selections
              = db.selections.map (Selection.forgetAll (deletionsOf P db ops)) ++ added
          ∧ (added.map (·.articleId)).Perm (picksOf P db ops) := by
  constructor
  · intro pre op _ db' _
    exact GalleryOp.log op
  · obtain ⟨db', hrun⟩ := run_total (galleryStep_isSome P) db ops
    exact ⟨db', hrun, run_log hrun⟩

end Feedcast
