/-
  Feedcast.Carousels.Picker — what the picker offers, and what the server takes
  (`static/js/story-picker.js`, `slides.js`, `studio.js`).

  The picker measures room in slides, the server in slides of kind story.  The
  two limits are two apart and meet on a deck that has both its brackets; every
  bracket that is deleted leaves room the server does not have:

    • `canvasStep_synced` — with its saves accepted, the canvas and the server
      hold the same slides,
    • `addStories_capacity` — what the server refuses for capacity,
    • `picker_accepted_iff` — when it takes what the picker offers.
-/
import Feedcast.Carousels.Capacity
import Feedcast.Carousels.SlideOrder
import Feedcast.Carousels.Studio

namespace Feedcast

open Feedcast.Lib

/-! ## §1. The picker. -/

/-- `onToggle`: the chosen stories, in a sheet with so much room. -/
def onToggle (room : Nat) (chosen : List Str) (id : Str) : List Str :=
  if id ∈ chosen then chosen.filter (· ≠ id)
  else if room ≤ chosen.length then chosen
  else chosen ++ [id]

/-- The open canvas, and the database its deck is stored in. -/
structure Canvas where
  db : Db
  store : SlideStore

/-- `alreadyIn`. -/
def SlideStore.alreadyIn (store : SlideStore) : List Str :=
  store.contents.filterMap (·.storyId)

/-- The slides that are no story slides: what is left of intro and CTA. -/
def SlideStore.brackets (store : SlideStore) : Nat :=
  (store.contents.filter fun slide => slide.kind ≠ .story).length

/-- **A choice the picker can hand over**: no more stories than there is room,
each of them stored, not in the deck and chosen once. -/
structure Offered (canvas : Canvas) (choice : List Str) : Prop where
  distinct : choice.Nodup
  room : choice.length ≤ canvas.store.room
  stored : ∀ id ∈ choice, (storyRow canvas.db id).isSome
  fresh : ∀ id ∈ choice, id ∉ canvas.store.alreadyIn

instance (canvas : Canvas) (choice : List Str) : Decidable (Offered canvas choice) :=
  decidable_of_iff
    (choice.Nodup ∧ choice.length ≤ canvas.store.room
      ∧ (∀ id ∈ choice, (storyRow canvas.db id).isSome)
      ∧ ∀ id ∈ choice, id ∉ canvas.store.alreadyIn)
    ⟨fun h => ⟨h.1, h.2.1, h.2.2.1, h.2.2.2⟩, fun h => ⟨h.distinct, h.room, h.stored, h.fresh⟩⟩

/-- The rows of the sheet: stored stories that the deck does not hold. -/
def Canvas.Listed (canvas : Canvas) (id : Str) : Prop :=
  (storyRow canvas.db id).isSome ∧ id ∉ canvas.store.alreadyIn

theorem offered_nil (canvas : Canvas) : Offered canvas [] where
  distinct := List.nodup_nil
  room := Nat.zero_le _
  stored id hid := by cases hid
  fresh id hid := by cases hid

/-- A click on a row of the sheet leaves a choice that can be handed over. -/
theorem Offered.toggle {canvas : Canvas} {choice : List Str} (h : Offered canvas choice)
    {id : Str} (hlisted : canvas.Listed id) :
    Offered canvas (onToggle canvas.store.room choice id) := by
  unfold onToggle
  split
  · exact { distinct := h.distinct.filter _
            room := le_trans (List.length_filter_le _ _) h.room
            stored := fun id' hid' => h.stored id' (List.mem_of_mem_filter hid')
            fresh := fun id' hid' => h.fresh id' (List.mem_of_mem_filter hid') }
  · next hnew =>
      split
      -- no room left: the sheet keeps the choice as it is
      · exact h
      · next hroom =>
          refine { distinct := ?_, room := ?_, stored := ?_, fresh := ?_ }
          · rw [← List.concat_eq_append]
            exact List.Nodup.concat hnew h.distinct
          · rw [List.length_append, List.length_singleton]
            omega
          · intro id' hid'
            rcases List.mem_append.mp hid' with hold | hid'
            · exact h.stored id' hold
            · rw [List.mem_singleton.mp hid']
              exact hlisted.1
          · intro id' hid'
            rcases List.mem_append.mp hid' with hold | hid'
            · exact h.fresh id' hold
            · rw [List.mem_singleton.mp hid']
              exact hlisted.2

/-- **Whatever is clicked, the choice can be handed over.** -/
theorem onToggle_offered {canvas : Canvas} {clicks : List Str}
    (hlisted : ∀ id ∈ clicks, canvas.Listed id) :
    Offered canvas (clicks.foldl (onToggle canvas.store.room) []) := by
  have hrun : ∀ choice, Offered canvas choice →
      Offered canvas (clicks.foldl (onToggle canvas.store.room) choice) := by
    induction clicks with
    | nil => exact fun choice h => h
    | cons id clicks ih =>
        intro choice h
        exact ih (fun id' hid' => hlisted id' (List.mem_cons_of_mem _ hid')) _
          (h.toggle (hlisted id List.mem_cons_self))
  exact hrun [] (offered_nil canvas)

/-! ## §2. Editing with the saves accepted. -/

inductive CanvasAction (settings : Settings) where
  | edit (action : DeckEditAction)
  /-- The debounce timer fires, and the server accepts the PUT. -/
  | save (now : Time)
  /-- The picker closes on a choice; no save is pending. -/
  | add (data : CarouselRequest settings) (now : Time)
  /-- Anything else commits on the server, and leaves this deck alone. -/
  | elsewhere (db : Db)

def canvasStep {settings : Settings} (P : Platform) (canvas : Canvas) :
    CanvasAction settings → Option Canvas
  | .edit action => some { canvas with store := canvas.store.edit action }
  | .save now => do
      let id ← canvas.store.carouselId
      let data ← parseDeck settings canvas.store.contents
      match saveCarousel P settings canvas.db id data now with
      | .ok (db, _) =>
          let sent := { canvas.store with saveTimer := false }
          return { db := db, store := sent.answered id true now }
      | .error _ => none
  | .add data now => do
      let id ← canvas.store.carouselId
      match canvas.store.saveTimer, addStories P settings canvas.db id data now with
      | true, _ => none
      | false, .ok (db, result) => return { db := db, store := result.toStore }
      -- the refusal is shown as a note
      | false, .error _ => return canvas
  | .elsewhere db => do
      let id ← canvas.store.carouselId
      if (db.getCarousel id).isSome ∧ deckRows db id = deckRows canvas.db id then
        return { canvas with db := db }
      else none

/-- A deck the server has just built. -/
def Built (P : Platform) (settings : Settings) (canvas : Canvas) : Prop :=
  ∃ db data now result, createCarousel P settings db data now = .ok (canvas.db, result)
    ∧ canvas.store = result.toStore

/-! ## §3. The invariant. -/

/-- What the limits depend on: the kind of a slide and the story it names. -/
abbrev SlideSlot := SlideKind × Option Str

def SlideContent.slot (content : SlideContent) : SlideSlot := (content.kind, content.storyId)

def JsContent.slot (content : JsContent) : SlideSlot := (content.kind, content.storyId)

/-- **The server holds the slides of the canvas**, unless a save is pending. -/
structure Synced (canvas : Canvas) (id : Nat) : Prop where
  opened : canvas.store.carouselId = some id
  stored : ∃ carousel, canvas.db.getCarousel id = some carousel
  slots : canvas.store.saveTimer = false →
    (canvas.store.contents.map (·.slot)).Perm ((storedDeck canvas.db id).map (·.slot))

section Canvas

variable {settings : Settings} {P : Platform} {db : Db} {canvas canvas' : Canvas} {id : Nat}

theorem contents_loaded (result : CarouselResponse) :
    result.toStore.contents.map (·.slot) = result.slides.map (·.content.slot) := by
  show ((result.slides.map Slide.toJs).map JsSlide.clean |>.map JsSlide.content).map _ = _
  rw [List.map_map, List.map_map, List.map_map]
  rfl

/-- A deck that is loaded shows the slides of its rows. -/
theorem response_slots (carousel : Carousel) (missing : List Str) :
    ((response P settings db carousel missing).toStore.contents.map (·.slot)).Perm
      ((storedDeck db carousel.id).map (·.slot)) := by
  rw [contents_loaded]
  have hperm := (@loadDeck_perm P settings db carousel.id).map (·.slot)
  rw [List.map_map] at hperm
  exact hperm

theorem stored_of_mem {carousel : Carousel} (hmem : carousel ∈ db.carousels) :
    ∃ carousel', db.getCarousel carousel.id = some carousel' :=
  Option.ne_none_iff_exists'.mp fun hnone => (getRow_none _).mp hnone carousel hmem rfl

theorem Built.synced (h : Built P settings canvas) : ∃ id, Synced canvas id := by
  obtain ⟨db, data, now, result, hcreate, hstore⟩ := h
  unfold createCarousel at hcreate
  obtain ⟨resolved, -, hcreate⟩ := except_bind_ok.mp hcreate
  split at hcreate
  · cases hcreate
  · next city hcity =>
      obtain ⟨slides, -, hcreate⟩ := except_bind_ok.mp hcreate
      obtain ⟨hdb, hresult⟩ := Prod.mk.inj (Except.ok.inj hcreate)
      refine ⟨(newCarousel db city now).id, { opened := ?_, stored := ?_, slots := ?_ }⟩
      · rw [hstore, ← hresult]
        rfl
      -- the new row is there, under its number, with its stamp
      · have hnew := mem_insertCarousel db (newCarousel db city now)
        have hedited : (newCarousel db city now).edited now ∈ canvas.db.carousels := by
          rw [← hdb]
          exact List.mem_map.mpr ⟨_, hnew, if_pos rfl⟩
        exact @stored_of_mem _ ((newCarousel db city now).edited now) hedited
      · intro _
        rw [hstore, ← hresult, ← hdb]
        exact response_slots _ _

/-- A PUT of the contents stores the slides of the canvas. -/
theorem saved_slots {data : DeckWrite settings}
    (hdata : parseDeck settings canvas.store.contents = some data) :
    canvas.store.contents.map (·.slot) = (data.slides.map (·.content)).map (·.slot) := by
  rw [← parseDeck_contents hdata]
  unfold DeckWrite.contents
  rw [List.map_map, List.map_map]
  rfl

/-- An edit schedules a save, or changes nothing. -/
theorem Synced.edit (h : Synced canvas id) (action : DeckEditAction) :
    Synced { canvas with store := canvas.store.edit action } id := by
  obtain ⟨hopened, hstored, hslots⟩ := h
  refine { opened := ?_, stored := hstored, slots := ?_ }
  · show (canvas.store.edit action).carouselId = some id
    rw [SlideStore.edit_eq hopened]
    split
    · exact hopened
    · exact hopened
  · show (canvas.store.edit action).saveTimer = false → _
    rw [SlideStore.edit_eq hopened]
    -- an edit may do nothing, and then no save is scheduled
    split
    · exact hslots
    · -- the save is pending from here on
      intro hpending
      cases hpending

/-- An accepted save stores what is on the canvas. -/
theorem Synced.saved (h : Synced canvas id) {data : DeckWrite settings} {now : Time}
    {result : CarouselResponse} (hdata : parseDeck settings canvas.store.contents = some data)
    (hsave : saveCarousel P settings canvas.db id data now = .ok (db, result)) :
    Synced { db := db,
             store := { canvas.store with saveTimer := false }.answered id true now } id := by
  obtain ⟨hopened, ⟨carousel, hc⟩, -⟩ := h
  have hid := (getCarousel_id hc).2
  obtain ⟨carousel', hc', -, rfl⟩ := saveCarousel_ok hsave
  -- the carousel the canvas is open on is the one that was saved
  obtain rfl := Option.some.inj (hc.symm.trans hc')
  obtain ⟨savedAt, hanswered⟩ :=
    SlideStore.answered_eq { canvas.store with saveTimer := false } id true now
  rw [hanswered]
  refine { opened := hopened, stored := ?_, slots := ?_ }
  · exact @write_getCarousel _ _ _ _ (DeckEdit.mk data.slides [] []) now (.save data) _ hc
  · -- the PUT sends what the canvas holds
    intro _
    show (canvas.store.contents.map _).Perm _
    rw [← hid, storedDeck_saveDeck_self, saved_slots hdata]

/-- An accepted add is answered with the deck it stored. -/
theorem Synced.added (h : Synced canvas id) {data : CarouselRequest settings} {now : Time}
    {result : CarouselResponse}
    (hadd : addStories P settings canvas.db id data now = .ok (db, result)) :
    Synced { db := db, store := result.toStore } id := by
  obtain ⟨-, ⟨carousel, hc⟩, -⟩ := h
  have hid := (getCarousel_id hc).2
  obtain ⟨carousel', edit, hc', -, hdb, hresult⟩ := addStories_answer hadd
  obtain rfl := Option.some.inj (hc.symm.trans hc')
  refine { opened := ?_, stored := ?_, slots := ?_ }
  · rw [hresult, ← hid]
    rfl
  · rw [hdb]
    exact write_getCarousel (DeckRequest.add data) hc
  -- the store takes over the deck of the reply, ids and all
  · intro _
    rw [hresult, ← hid]
    exact response_slots _ _

/-- A commit elsewhere leaves the deck as it is stored. -/
theorem Synced.elsewhere (h : Synced canvas id) (hstored : (db.getCarousel id).isSome)
    (hrows : deckRows db id = deckRows canvas.db id) : Synced { canvas with db := db } id := by
  refine { opened := h.opened, stored := Option.isSome_iff_exists.mp hstored, slots := ?_ }
  -- with no save pending the canvas is the stored deck, and that has not moved
  intro hsaved
  have hdeck : storedDeck db id = storedDeck canvas.db id := by
    unfold storedDeck
    rw [hrows]
  show (canvas.store.contents.map _).Perm ((storedDeck db id).map _)
  rw [hdeck]
  exact h.slots hsaved

/-- **With its saves accepted, the canvas and the server hold the same slides.** -/
theorem canvasStep_synced {action : CanvasAction settings} (h : Synced canvas id)
    (hstep : canvasStep P canvas action = some canvas') : Synced canvas' id := by
  cases action with
  | edit action =>
      cases hstep
      exact h.edit action
  | save now =>
      obtain ⟨id', hid', hstep⟩ := Option.bind_eq_some_iff.mp hstep
      obtain rfl := Option.some.inj (h.opened.symm.trans hid')
      obtain ⟨data, hdata, hstep⟩ := Option.bind_eq_some_iff.mp hstep
      split at hstep
      · next db result hsave =>
          cases hstep
          exact h.saved hdata hsave
      · cases hstep
  | add data now =>
      obtain ⟨id', hid', hstep⟩ := Option.bind_eq_some_iff.mp hstep
      obtain rfl := Option.some.inj (h.opened.symm.trans hid')
      split at hstep
      · cases hstep
      · next db result _ hadd =>
          cases hstep
          exact h.added hadd
      · -- a refused add leaves the canvas as it is
        cases hstep
        exact h
  -- what others do to the tables leaves this carousel and its slides alone
  | elsewhere db =>
      obtain ⟨id', hid', hstep⟩ := Option.bind_eq_some_iff.mp hstep
      obtain rfl := Option.some.inj (h.opened.symm.trans hid')
      split at hstep
      · next hsame =>
          cases hstep
          exact h.elsewhere hsame.1 hsame.2
      · cases hstep

theorem Built.reaches_synced {start : Canvas} {actions : List (CanvasAction settings)}
    (h : Built P settings start) (hrun : Run (canvasStep P) start actions canvas) :
    ∃ id, Synced canvas id := by
  obtain ⟨id, hsynced⟩ := h.synced
  exact ⟨id, Run.invariant (I := fun canvas => Synced canvas id)
    (fun _ _ _ hs hstep => canvasStep_synced hs hstep) hrun hsynced⟩

end Canvas

/-! ## §4. What the server refuses for capacity. -/

/-- The refusal of `checkRoom`. -/
def noRoomMessage (cap : Int) : Str :=
  "a carousel holds at most ".toList ++ (toString cap).toList ++ " stories".toList

/-- `add_stories` answers that there are too many stories. -/
def RefusedForCapacity {α : Type} (settings : Settings) (answer : Handler α) : Prop :=
  answer = .error (unprocessable (tooManyStoriesMessage settings.carouselMaxStories))
    ∨ answer = .error (unprocessable (noRoomMessage settings.carouselMaxStories))

section Capacity

variable {settings : Settings} {P : Platform} {db : Db} {canvas : Canvas} {id : Nat}

theorem unprocessable_inj {α : Type} {detail detail' : Str} :
    (.error (unprocessable detail) : Handler α) = .error (unprocessable detail') ↔
      detail = detail' :=
  ⟨fun h => congrArg HttpError.detail (Except.error.inj h), fun h => h ▸ rfl⟩

theorem resolveSelection_refused {storyIds : List Str} {detail : Str} :
    resolveSelection P settings db storyIds = .error (unprocessable detail) ↔
      ((dedupe storyIds).length : Int) > settings.carouselMaxStories
        ∧ tooManyStoriesMessage settings.carouselMaxStories = detail := by
  unfold resolveSelection
  -- the cap comes before the query, on the distinct ids
  by_cases hcap : ((dedupe storyIds).length : Int) > settings.carouselMaxStories
  · have hresolve : resolveStories P settings db storyIds
        = .error (tooManyStoriesMessage settings.carouselMaxStories) := if_pos hcap
    rw [hresolve]
    exact unprocessable_inj.trans (and_iff_right hcap).symm
  · have hresolve : resolveStories P settings db storyIds
        = .ok (resolveRows P settings (dedupe storyIds)
            (matchingRows db (dedupe storyIds))) := if_neg hcap
    rw [hresolve]
    refine iff_of_false ?_ fun h => hcap h.1
    dsimp only
    split
    · -- a selection without stories is a 404
      intro h
      cases h
    · intro h
      cases h

theorem checkRoom_refused {count : Nat} {detail : Str} :
    checkRoom settings count = .error (unprocessable detail) ↔
      (count : Int) > settings.carouselMaxStories
        ∧ noRoomMessage settings.carouselMaxStories = detail := by
  by_cases hcap : (count : Int) > settings.carouselMaxStories
  · have hroom : checkRoom settings count
        = .error (unprocessable (noRoomMessage settings.carouselMaxStories)) := if_pos hcap
    rw [hroom]
    exact unprocessable_inj.trans (and_iff_right hcap).symm
  · rw [checkRoom_ok.mpr (not_lt.mp hcap)]
    refine iff_of_false ?_ fun h => hcap h.1
    intro h
    cases h

theorem asWrite_unrefused {slides : List Slide} {detail : Str} :
    asWrite slides ≠ .error (unprocessable detail) := by
  intro h
  unfold asWrite at h
  split at h
  · cases h
  · -- a slide that cannot be written is a 500
    have hstatus : (500 : Nat) = 422 := congrArg HttpError.status (Except.error.inj h)
    omega

/-- An add is unprocessable for what its selection or its room says. -/
theorem addDeck_refused {data : CarouselRequest settings} {detail : Str} :
    addDeck P settings db id data = .error (unprocessable detail) ↔
      resolveSelection P settings db data.storyIds = .error (unprocessable detail)
        ∨ ∃ resolved, resolveSelection P settings db data.storyIds = .ok resolved
          ∧ checkRoom settings (storyCount (loadDeck P settings db id)
              + (freshStories (loadDeck P settings db id) resolved.stories).length)
            = .error (unprocessable detail) := by
  unfold addDeck
  rw [except_bind_error]
  refine or_congr_right (exists_congr fun resolved => and_congr_right fun _ => ?_)
  rw [except_bind_error]
  constructor
  · intro h
    rcases h with hroom | ⟨_, -, hwrite⟩
    · exact hroom
    · rcases except_bind_error.mp hwrite with hwrite | ⟨_, -, hdone⟩
      -- slides built by the server are never refused for capacity
      · exact absurd hwrite asWrite_unrefused
      · cases hdone
  · exact Or.inl

theorem addStories_refused {data : CarouselRequest settings} {now : Time} {carousel : Carousel}
    {detail : Str} (hc : db.getCarousel id = some carousel) :
    addStories P settings db id data now = .error (unprocessable detail) ↔
      addDeck P settings db id data = .error (unprocessable detail) := by
  unfold addStories
  rw [loadCarousel_ok.mpr ⟨carousel, hc, rfl⟩]
  show (addDeck P settings db id data >>= _) = _ ↔ _
  rw [except_bind_error]
  refine or_iff_left ?_
  intro h
  obtain ⟨_, -, hdone⟩ := h
  cases hdone

/-- **An add is refused for capacity** if it asks for too many stories, or if
those of them that are new have no room among the story slides. -/
theorem addStories_capacity {data : CarouselRequest settings} {now : Time} {carousel : Carousel}
    (hc : db.getCarousel id = some carousel) :
    RefusedForCapacity settings (addStories P settings db id data now) ↔
      ((dedupe data.storyIds).length : Int) > settings.carouselMaxStories
        ∨ matchingRows db (dedupe data.storyIds) ≠ []
          ∧ (storyCount (loadDeck P settings db id) : Int)
              + (newStories db id data.storyIds).length > settings.carouselMaxStories := by
  -- the handler and the claim count the same stories
  have hfresh : (freshStories (loadDeck P settings db id)
      (resolveRows P settings (dedupe data.storyIds)
        (matchingRows db (dedupe data.storyIds))).stories).length
      = (newStories db id data.storyIds).length := by
    rw [← (freshStories_ids P settings db id data.storyIds).length_eq, List.length_map]
  unfold RefusedForCapacity
  simp only [addStories_refused hc, addDeck_refused, resolveSelection_refused]
  constructor
  · intro h
    have hroom : ∀ detail, (∃ resolved, resolveSelection P settings db data.storyIds = .ok resolved
        ∧ checkRoom settings (storyCount (loadDeck P settings db id)
            + (freshStories (loadDeck P settings db id) resolved.stories).length)
          = .error (unprocessable detail)) →
        matchingRows db (dedupe data.storyIds) ≠ []
          ∧ (storyCount (loadDeck P settings db id) : Int)
              + (newStories db id data.storyIds).length > settings.carouselMaxStories := by
      intro detail hfull
      obtain ⟨resolved, hresolved, hcheck⟩ := hfull
      obtain ⟨-, hrows, rfl⟩ := resolveSelection_ok.mp hresolved
      rw [hfresh] at hcheck
      exact ⟨hrows, (checkRoom_refused.mp hcheck).1⟩
    -- `RefusedForCapacity` names both messages of each of the two caps
    rcases h with (⟨hmany, -⟩ | hfull) | (⟨hmany, -⟩ | hfull)
    · exact Or.inl hmany
    · exact Or.inr (hroom _ hfull)
    · exact Or.inl hmany
    · exact Or.inr (hroom _ hfull)
  · intro h
    by_cases hmany : ((dedupe data.storyIds).length : Int) > settings.carouselMaxStories
    · exact Or.inl (Or.inl ⟨hmany, trivial⟩)
    · -- few enough ids, so the refusal is the deck's
      obtain ⟨hrows, hroom⟩ := h.resolve_left hmany
      refine Or.inr (Or.inr ⟨_, resolveSelection_ok.mpr ⟨not_lt.mp hmany, hrows, rfl⟩, ?_⟩)
      rw [hfresh]
      exact checkRoom_refused.mpr ⟨hroom, rfl⟩

end Capacity

/-! ## §5. What the picker offers. -/

section Offer

variable {settings : Settings} {P : Platform} {canvas : Canvas} {id : Nat}

/-- The story slides of the server are those of the canvas. -/
theorem Synced.storyCount (h : Synced canvas id) (hsaved : canvas.store.saveTimer = false) :
    storyCount (loadDeck P settings canvas.db id) + canvas.store.brackets
      = canvas.store.deck.length := by
  -- the stored deck and the canvas hold the same slots, so as many stories
  have hslots := (h.slots hsaved).filter fun slot => slot.1 = SlideKind.story
  have hcount := hslots.length_eq
  rw [List.filter_map, List.filter_map, List.length_map, List.length_map] at hcount
  have hstories : Feedcast.storyCount (loadDeck P settings canvas.db id)
      = (canvas.store.contents.filter fun slide => slide.kind = .story).length := by
    rw [storyCount_loadDeck]
    exact hcount.symm
  -- a slide of the canvas is a story or a bracket
  have hall := List.length_eq_length_filter_add (l := canvas.store.contents)
    fun slide => slide.kind = .story
  have hlength : canvas.store.contents.length = canvas.store.deck.length := List.length_map _
  rw [hstories, ← hlength, hall]
  unfold SlideStore.brackets
  simp

/-- The stories of the server's deck are those of the canvas. -/
theorem Synced.alreadyIn (h : Synced canvas id) (hsaved : canvas.store.saveTimer = false)
    (storyId : Str) :
    storyId ∈ (deckRows canvas.db id).filterMap (·.articleId)
      ↔ storyId ∈ canvas.store.alreadyIn := by
  have hslots := (h.slots hsaved).filterMap fun slot => slot.2
  rw [List.filterMap_map, List.filterMap_map] at hslots
  have hmem := hslots.mem_iff (a := storyId)
  unfold storedDeck at hmem
  rw [List.filterMap_map] at hmem
  exact hmem.symm

/-- Every story the picker hands over is new to the deck. -/
theorem Synced.newStories {choice : List Str} (h : Synced canvas id)
    (hsaved : canvas.store.saveTimer = false) (hoffered : Offered canvas choice) :
    newStories canvas.db id choice = choice := by
  unfold Feedcast.newStories
  rw [dedupe_of_nodup hoffered.distinct]
  refine List.filter_eq_self.mpr ?_
  intro storyId hmem
  have hnew := fun hin => hoffered.fresh storyId hmem ((h.alreadyIn hsaved storyId).mp hin)
  exact decide_eq_true ⟨hoffered.stored storyId hmem, hnew⟩

/-- What the picker hands over is refused exactly if it does not fit the story
slides of the canvas. -/
theorem Synced.refused_iff {data : CarouselRequest settings} (h : Synced canvas id)
    (hsaved : canvas.store.saveTimer = false) (hoffered : Offered canvas data.storyIds)
    (now : Time) :
    RefusedForCapacity settings (addStories P settings canvas.db id data now) ↔
      settings.carouselMaxStories + canvas.store.brackets + canvas.store.room
        < data.storyIds.length + storeMaxSlides := by
  obtain ⟨carousel, hc⟩ := h.stored
  rw [addStories_capacity hc, h.newStories hsaved hoffered, dedupe_of_nodup hoffered.distinct]
  have hrows : matchingRows canvas.db data.storyIds ≠ [] := by
    obtain ⟨storyId, hmem⟩ := List.exists_mem_of_ne_nil _ data.storyIds_ne
    obtain ⟨row, hrow⟩ := Option.isSome_iff_exists.mp (hoffered.stored storyId hmem)
    exact List.ne_nil_of_mem (mem_matchingRows.mpr ⟨storyId, hmem, hrow⟩)
  -- a choice is not empty, so there is room for it, and the deck is below the limit
  have hpos := List.length_pos_of_ne_nil data.storyIds_ne
  have hroom := hoffered.room
  have hcount := @Synced.storyCount settings P canvas id h hsaved
  have hdef : canvas.store.room = storeMaxSlides - canvas.store.deck.length := rfl
  constructor
  · intro hrefused
    rcases hrefused with hmany | ⟨-, hfull⟩
    · omega
    · omega
  · intro hover
    refine Or.inr ⟨hrows, ?_⟩
    omega

end Offer

/-! ## §6. Runs. -/

/-- **THE SERVER TAKES WHAT THE PICKER OFFERS EXACTLY IF THE BRACKETS OF THE
DECK, AND ITS CAP ON STORIES, MAKE UP FOR THE LIMIT ON SLIDES.** -/
theorem picker_accepted_iff (P : Platform) (settings : Settings) {start canvas : Canvas}
    (hbuilt : Built P settings start) (actions : List (CanvasAction settings))
    (hrun : Run (canvasStep P) start actions canvas) (hsaved : canvas.store.saveTimer = false)
    (data : CarouselRequest settings) (hoffered : Offered canvas data.storyIds) (now : Time) :
    (∃ id, canvas.store.carouselId = some id
        ∧ ¬ RefusedForCapacity settings (addStories P settings canvas.db id data now)) ↔
      (data.storyIds.length + storeMaxSlides : Int)
        ≤ canvas.store.room + canvas.store.brackets + settings.carouselMaxStories := by
  obtain ⟨id, hsynced⟩ := hbuilt.reaches_synced hrun
  -- the two caps, once for the server and once for the store
  have hrefused := @Synced.refused_iff settings P canvas id data hsynced hsaved hoffered now
  constructor
  · intro h
    obtain ⟨id', hid', haccepted⟩ := h
    obtain rfl := Option.some.inj (hsynced.opened.symm.trans hid')
    have hfits := not_lt.mp fun hover => haccepted (hrefused.mpr hover)
    omega
  · intro hfits
    refine ⟨id, hsynced.opened, fun h => ?_⟩
    have hover := hrefused.mp h
    omega

/-! ## §7. A deck without its intro. -/

/-- The canvas on a deck the server has just built. -/
def buildCanvas {settings : Settings} (P : Platform) (db : Db) (data : CarouselRequest settings)
    (now : Time) : Option Canvas :=
  match createCarousel P settings db data now with
  | .ok (db', result) => some { db := db', store := result.toStore }
  | .error _ => none

theorem buildCanvas_built {settings : Settings} {P : Platform} {db : Db}
    {data : CarouselRequest settings} {now : Time} {canvas : Canvas}
    (h : buildCanvas P db data now = some canvas) : Built P settings canvas := by
  unfold buildCanvas at h
  split at h
  · next db' result hcreate =>
      cases h
      exact ⟨db, data, now, result, hcreate, rfl⟩
  · cases h

/-- A deck of one story. -/
def drainageDeck : Option Canvas :=
  buildCanvas feedless nagpurStories (selectOne drainageId drainageId_valid) (seconds 1790000000)

/-- The intro goes, and seven slides are written by hand. -/
def introToBlanks : List (CanvasAction defaultSettings) :=
  .edit (.remove 0) :: List.replicate 7 (.edit .add) ++ [.save (seconds 1790000060)]

/-- The picker has room for one more, and the server none. -/
theorem introToBlanks_refused :
    ∃ start canvas, Built feedless defaultSettings start
      ∧ Run (canvasStep feedless) start introToBlanks canvas ∧ canvas.store.saveTimer = false
      ∧ Offered canvas [metroId]
      ∧ ∀ id ∈ canvas.store.carouselId, RefusedForCapacity defaultSettings
          (addStories feedless defaultSettings canvas.db id (selectOne metroId metroId_valid)
            (seconds 1790000120)) := by
  have hok : ∃ start ∈ drainageDeck, ∃ canvas ∈ exec (canvasStep feedless) start introToBlanks,
      canvas.store.saveTimer = false ∧ Offered canvas [metroId]
        ∧ canvas.store.carouselId = some 1 ∧ (canvas.db.getCarousel 1).isSome
        ∧ matchingRows canvas.db (dedupe [metroId]) ≠ []
        ∧ storyCount (loadDeck feedless defaultSettings canvas.db 1)
            + (newStories canvas.db 1 [metroId]).length > 8 := by
    decide +kernel
  obtain ⟨start, hstart, canvas, hexec, hsaved, hoffered, hopened, hstored, hrows, hfull⟩ := hok
  refine ⟨start, canvas, buildCanvas_built hstart, run_iff_exec.mpr hexec, hsaved, hoffered, ?_⟩
  intro id hid
  obtain rfl := Option.some.inj (hopened.symm.trans hid)
  obtain ⟨carousel, hc⟩ := Option.isSome_iff_exists.mp hstored
  -- a blank slide is of the kind story: with the first one there are eight
  exact (addStories_capacity hc).mpr (Or.inr ⟨hrows, Int.ofNat_lt.mpr hfull⟩)

/-- The intro is moved, and both brackets stay. -/
def introMoved : List (CanvasAction defaultSettings) :=
  [.edit (.move 0 1), .save (seconds 1790000060)]

/-- With its brackets, a deck of one story takes another. -/
theorem picker_accepted_iff_drainageDeck :
    ∃ start canvas, Built feedless defaultSettings start
      ∧ Run (canvasStep feedless) start introMoved canvas
      ∧ ∃ id, canvas.store.carouselId = some id
        ∧ ¬ RefusedForCapacity defaultSettings
          (addStories feedless defaultSettings canvas.db id (selectOne metroId metroId_valid)
            (seconds 1790000120)) := by
  -- evaluated once: seven stories may still be added, and the two brackets are there
  have hok : ∃ start ∈ drainageDeck, ∃ canvas ∈ exec (canvasStep feedless) start introMoved,
      canvas.store.saveTimer = false ∧ Offered canvas [metroId]
        ∧ canvas.store.room = 7 ∧ canvas.store.brackets = 2 := by
    decide +kernel
  obtain ⟨start, hstart, canvas, hexec, hsaved, hoffered, hroom, hbrackets⟩ := hok
  have hbuilt := buildCanvas_built hstart
  have hrun := run_iff_exec.mpr hexec
  refine ⟨start, canvas, hbuilt, hrun, (picker_accepted_iff feedless defaultSettings hbuilt _ hrun
    hsaved (selectOne metroId metroId_valid) hoffered (seconds 1790000120)).mpr ?_⟩
  rw [hroom, hbrackets]
  decide

end Feedcast
