/-
  Feedcast.Carousels.Insertion — what an add leaves of the deck, once and again
  (`add_stories`, `save_deck`, `load_deck`).

  A deck goes out through the rows and the stories joined to them, and comes
  back as a list of writes that replaces all the rows.  What is stored of a
  slide is all that `load_deck` needs to fill it in again, so nothing is lost
  on the way, and an add is an `Insertion` into the deck as it is loaded:

    • `loadDeck_asWrite` — a deck that was loaded or built comes back whole,
    • `addStories_insert` — the new deck is the old one and the insertion,
    • `Added.again` — the same request once more is a no-op,
    • `addStories_idempotent` — all of it, for every deck and every request.
-/
import Feedcast.Carousels.Capacity
import Feedcast.Carousels.LastWrite
import Feedcast.Carousels.Resolution

namespace Feedcast

open Feedcast.Lib

/-! ## §1. The property. -/

/-- **The stories an add brings in**: those asked for that exist and that the
deck does not name, by rank and so each of them once. -/
structure NewBlock (P : Platform) (settings : Settings) (db : Db) (storyIds : List Str)
    (deck : List Slide) (block : List StoryRead) : Prop where
  named : ∀ id, id ∈ block.map (·.id) ↔
    id ∈ storyIds ∧ (storyRow db id).isSome ∧ id ∉ deck.filterMap (·.storyId)
  projected : ∀ story ∈ block, ∃ row,
    storyRow db story.id = some row ∧ story = projectStory P settings row
  ranked : block.Pairwise fun a b => storyKey b < storyKey a

/-- **The deck with the new stories in it**: their slides in one block, right
before the first CTA or at the end, every earlier slide as it was, and the
positions from 0 on. -/
structure StoriesInserted (P : Platform) (settings : Settings) (carouselId : Nat)
    (storyIds : List Str) (db db' : Db) : Prop where
  deck : ∃ before block after,
    loadDeck P settings db carouselId = before ++ after
      ∧ (∀ slide ∈ before, slide.kind ≠ .cta)
      ∧ (∀ slide ∈ after.head?, slide.kind = .cta)
      ∧ NewBlock P settings db storyIds (loadDeck P settings db carouselId) block
      ∧ loadDeck P settings db' carouselId
        = before ++ block.map (storySlide P settings) ++ after
  positions : (deckRows db' carouselId).map (·.position)
    = List.range (loadDeck P settings db' carouselId).length

/-- **Nothing has moved**: the deck as it is stored and as it is loaded, and the
selections. -/
structure DeckUnmoved (P : Platform) (settings : Settings) (carouselId : Nat) (db db' : Db) :
    Prop where
  rows : (deckRows db' carouselId).map (·.stored) = (deckRows db carouselId).map (·.stored)
  deck : loadDeck P settings db' carouselId = loadDeck P settings db carouselId
  selections : db'.selections = db.selections

/-! ## §2. Out and back in. -/

/-- What `load_deck` makes of what is stored of a slide. -/
def SlideContent.rehydrate (P : Platform) (settings : Settings) (db : Db)
    (content : SlideContent) : Slide :=
  let story := (content.storyId.bind (storyRow db)).map (projectStory P settings)
  { kind := content.kind, storyId := content.storyId, text := content.text
    clipped := content.clipped, sourceName := story.map (·.sourceName)
    url := story.map (·.url), category := story.bind (·.category)
    score := story.bind (·.shownScore) }

/-- A slide that says of its story what the database does. -/
def Slide.Hydrated (P : Platform) (settings : Settings) (db : Db) (slide : Slide) : Prop :=
  slide.content.rehydrate P settings db = slide

section RoundTrip

variable {P : Platform} {settings : Settings} {db db' : Db} {carouselId next : Nat}

/-- What is stored of a slide is all that it is loaded from. -/
theorem loadSlide_eq :
    loadSlide P settings db = fun row => row.content.rehydrate P settings db := rfl

theorem loadDeck_hydrated :
    ∀ slide ∈ loadDeck P settings db carouselId, slide.Hydrated P settings db := by
  intro slide hslide
  unfold loadDeck at hslide
  rw [loadSlide_eq] at hslide
  obtain ⟨row, -, rfl⟩ := List.mem_map.mp hslide
  rfl

/-- A slide the server builds of a story carries what the story says. -/
theorem storySlide_hydrated {row : StoryRow} (hrow : storyRow db row.article.id = some row) :
    (storySlide P settings (projectStory P settings row)).Hydrated P settings db := by
  show SlideContent.rehydrate P settings db
    { kind := .story, storyId := some row.article.id, text := _, clipped := _ } = _
  unfold SlideContent.rehydrate
  simp only [Option.bind_some, hrow, Option.map_some]
  rfl

/-- Rows that are numbered in their order are loaded in it. -/
theorem loadDeck_slideRows {writes : List SlideWrite}
    (hrows : deckRows db carouselId = slideRows carouselId next writes) :
    loadDeck P settings db carouselId
      = writes.map fun write => write.content.rehydrate P settings db := by
  have hsorted : (slideRows carouselId next writes).Pairwise
      fun a b => a.position ≤ b.position := by
    rw [List.pairwise_iff_getElem]
    intro i j hi hj hij
    simpa [slideRows] using Nat.le_of_lt hij
  unfold loadDeck
  rw [hrows, hsorted.insertionSort_eq, loadSlide_eq]
  have hcontent := congrArg (List.map (SlideContent.rehydrate P settings db))
    (slideRows_content carouselId next writes)
  rw [List.map_map, List.map_map] at hcontent
  exact hcontent

/-- **A deck that was loaded or built comes back whole.** -/
theorem loadDeck_asWrite {slides : List Slide} {writes : List SlideWrite}
    (hwrites : asWrite slides = .ok writes)
    (hhydrated : ∀ slide ∈ slides, slide.Hydrated P settings db)
    (hstories : ∀ id, storyRow db' id = storyRow db id)
    (hrows : deckRows db' carouselId = slideRows carouselId next writes) :
    loadDeck P settings db' carouselId = slides := by
  -- filling in reads nothing but the stories
  have hsame : ∀ content : SlideContent,
      content.rehydrate P settings db' = content.rehydrate P settings db := by
    intro content
    unfold SlideContent.rehydrate
    rw [funext hstories]
  have hcontent := congrArg (List.map (SlideContent.rehydrate P settings db))
    (asWrite_content hwrites)
  rw [List.map_map, List.map_map] at hcontent
  have hback : slides.map (fun slide => slide.content.rehydrate P settings db) = slides :=
    (List.map_congr_left hhydrated).trans (List.map_id' slides)
  rw [loadDeck_slideRows hrows]
  simp only [hsame]
  exact hcontent.trans hback

end RoundTrip

/-! ## §3. An add is an insertion. -/

/-- How a deck takes in stories: before the first CTA, under their ids. -/
def deckInsertion (P : Platform) (settings : Settings) : Insertion Slide StoryRead Str where
  marked slide := slide.kind = .cta
  key := (·.storyId)
  name := (·.id)
  make := storySlide P settings
  key_make _ := rfl

/-- What an accepted add has done, with the stories its selection resolved to
and the writes it made. -/
structure Added (P : Platform) (settings : Settings) (carouselId : Nat) (db db' : Db)
    (resolved : Resolved) (writes : List SlideWrite) : Prop where
  inserted : loadDeck P settings db' carouselId
    = (deckInsertion P settings).insert resolved.stories (loadDeck P settings db carouselId)
  written : asWrite (loadDeck P settings db' carouselId) = .ok writes
  rows : deckRows db' carouselId = slideRows carouselId db.nextSlide writes
  room : (storyCount (loadDeck P settings db' carouselId) : Int) ≤ settings.carouselMaxStories
  stories : ∀ id, storyRow db' id = storyRow db id
  carousel : ∃ carousel, db'.getCarousel carouselId = some carousel

section Add

variable {P : Platform} {settings : Settings} {db db' : Db} {carouselId : Nat}
  {data : CarouselRequest settings} {resolved : Resolved} {writes : List SlideWrite}

theorem freshStories_eq (deck : List Slide) (stories : List StoryRead) :
    freshStories deck stories = (deckInsertion P settings).fresh deck stories :=
  List.filter_congr fun _ _ => decide_eq_decide.mpr Iff.rfl

/-- What `add_stories` writes. -/
theorem insertBeforeCta_fresh (deck : List Slide) (stories : List StoryRead) :
    insertBeforeCta deck ((freshStories deck stories).map (storySlide P settings))
      = (deckInsertion P settings).insert stories deck := by
  rw [insertBeforeCta_eq, @freshStories_eq P settings]
  rfl

/-- The stories of a selection that a deck does not name. -/
theorem newBlock_fresh (h : resolveSelection P settings db data.storyIds = .ok resolved)
    (deck : List Slide) :
    NewBlock P settings db data.storyIds deck (freshStories deck resolved.stories) where
  named := by
    intro id
    -- resolved means asked for and there; fresh means not in the deck
    have hmem : id ∈ resolved.stories.map (·.id) ↔ _ := mem_resolved h
    unfold freshStories
    rw [← and_assoc, Option.isSome_iff_exists, ← hmem, List.mem_map, List.mem_map]
    constructor
    · intro hid
      obtain ⟨story, hstory, rfl⟩ := hid
      obtain ⟨hin, hnew⟩ := List.mem_filter.mp hstory
      exact ⟨⟨story, hin, rfl⟩, of_decide_eq_true hnew⟩
    · intro hid
      obtain ⟨⟨story, hin, rfl⟩, hnew⟩ := hid
      exact ⟨story, List.mem_filter.mpr ⟨hin, decide_eq_true hnew⟩, rfl⟩
  projected := by
    intro story hstory
    obtain ⟨-, -, rfl⟩ := resolveSelection_ok.mp h
    obtain ⟨row, hrow, rfl⟩ := mem_resolveRows.mp (List.mem_of_mem_filter hstory)
    obtain ⟨id, -, hget⟩ := mem_matchingRows.mp hrow
    exact ⟨row, by rw [← storyRow_id hget] at hget; exact hget, rfl⟩
  ranked := by
    obtain ⟨-, -, rfl⟩ := resolveSelection_ok.mp h
    -- in the order of the server, which a filter keeps
    have hanswers : Answers db data.storyIds (matchingRows db (dedupe data.storyIds)) :=
      List.Perm.refl _
    exact hanswers.rankedPartition.ranked.sublist List.filter_sublist

/-- Every slide that comes in is a story slide. -/
theorem storyCount_insert (deck : List Slide) (stories : List StoryRead) :
    storyCount ((deckInsertion P settings).insert stories deck)
      = storyCount deck + (freshStories deck stories).length := by
  have hblock : (((freshStories deck stories).map (storySlide P settings)).filter
      fun slide => slide.kind = .story)
        = (freshStories deck stories).map (storySlide P settings) := by
    refine List.filter_eq_self.mpr ?_
    intro slide hslide
    obtain ⟨story, -, rfl⟩ := List.mem_map.mp hslide
    exact decide_eq_true rfl
  -- where the block is put does not matter to the count
  have hperm := (insertBeforeCta_perm deck
    ((freshStories deck stories).map (storySlide P settings))).filter
      fun slide => slide.kind = .story
  rw [insertBeforeCta_fresh, List.filter_append, hblock] at hperm
  have hlength := hperm.length_eq
  rw [List.length_append, List.length_map] at hlength
  exact hlength

/-- **The new deck is the old one and the insertion.** -/
theorem addStories_insert {now : Time} {r : CarouselResponse}
    (h : addStories P settings db carouselId data now = .ok (db', r)) :
    ∃ resolved writes, resolveSelection P settings db data.storyIds = .ok resolved
      ∧ Added P settings carouselId db db' resolved writes := by
  obtain ⟨carousel, edit, hc, hedit, rfl⟩ := addStories_ok h
  obtain ⟨hmem, rfl⟩ := getCarousel_id hc
  obtain ⟨resolved, hresolved, hfresh, hroom, hslides, -⟩ := addDeck_ok hedit
  let deck := loadDeck P settings db carousel.id
  have hnew := newBlock_fresh hresolved deck
  rw [← hfresh] at hnew
  have hinsert : insertBeforeCta deck (edit.fresh.map (storySlide P settings))
      = (deckInsertion P settings).insert resolved.stories deck := by
    rw [hfresh, insertBeforeCta_fresh]
  have hrows := deckRows_saveDeck_self db carousel edit.slides now
  -- the slides in the handler's hand were loaded, or built of stories just read
  have hhydrated : ∀ slide ∈ insertBeforeCta deck (edit.fresh.map (storySlide P settings)),
      slide.Hydrated P settings db := by
    intro slide hslide
    rcases mem_insertBeforeCta.mp hslide with hold | hadded
    · exact loadDeck_hydrated slide hold
    · obtain ⟨story, hstory, rfl⟩ := List.mem_map.mp hadded
      obtain ⟨row, hrow, rfl⟩ := hnew.projected story hstory
      exact storySlide_hydrated hrow
  have hdeck : loadDeck P settings (commitAdd db
        { carousel := carousel, slides := deckRows db carousel.id } edit data.sort now) carousel.id
      = insertBeforeCta deck (edit.fresh.map (storySlide P settings)) :=
    loadDeck_asWrite hslides hhydrated (fun _ => rfl) hrows
  refine ⟨resolved, edit.slides, hresolved, ?_⟩
  exact {
    inserted := hdeck.trans hinsert
    written := by rw [hdeck]; exact hslides
    rows := hrows
    room := by
      rw [hdeck, hinsert, storyCount_insert, ← hfresh]
      exact hroom
    stories := fun _ => rfl
    carousel := write_getCarousel (DeckRequest.add data) hc }

end Add

/-! ## §4. The same request again. -/

section Again

variable {P : Platform} {settings : Settings} {db db' : Db} {carouselId : Nat}
  {data : CarouselRequest settings} {resolved : Resolved} {writes : List SlideWrite}

theorem slideRows_stored (carouselId next : Nat) (slides : List SlideWrite) :
    (slideRows carouselId next slides).map (·.stored) = positioned (slides.map (·.content)) := by
  have h := congrArg (List.map Prod.snd) (number_positioned carouselId next slides)
  rw [List.map_map, number_snd] at h
  exact h

theorem slideRows_position (carouselId next : Nat) (slides : List SlideWrite) :
    (slideRows carouselId next slides).map (·.position) = List.range slides.length := by
  refine List.ext_getElem (by simp [slideRows]) ?_
  intro i _ _
  simp [slideRows]

/-- A selection resolves as before as long as the stories are what they were. -/
theorem resolveSelection_congr (hstories : ∀ id, storyRow db' id = storyRow db id)
    (h : resolveSelection P settings db data.storyIds = .ok resolved) :
    resolveSelection P settings db' data.storyIds = .ok resolved := by
  have hrows : matchingRows db' = matchingRows db := by
    funext wanted
    unfold matchingRows
    rw [funext hstories]
  rw [resolveSelection_ok] at h ⊢
  rw [hrows]
  exact h

/-- The same request finds no story the new deck does not name, and writes the
deck as it is. -/
theorem Added.addDeck (hresolved : resolveSelection P settings db data.storyIds = .ok resolved)
    (h : Added P settings carouselId db db' resolved writes) :
    addDeck P settings db' carouselId data
      = .ok { slides := writes, fresh := [], missing := resolved.missing } := by
  -- everything asked for is in the deck by now
  have hfresh : freshStories (loadDeck P settings db' carouselId) resolved.stories = [] := by
    rw [@freshStories_eq P settings, h.inserted]
    exact (deckInsertion P settings).fresh_insert_of_subset (List.Subset.refl _)
  refine except_bind_ok.mpr ⟨resolved, resolveSelection_congr h.stories hresolved, ?_⟩
  simp only [hfresh, List.map_nil, List.length_nil, Nat.add_zero]
  refine except_bind_ok.mpr ⟨(), checkRoom_ok.mpr h.room, ?_⟩
  -- and an empty block leaves the deck as it is
  have hsame : insertBeforeCta (loadDeck P settings db' carouselId) []
      = loadDeck P settings db' carouselId :=
    (insertBeforeCta_eq _ _).trans (insertBefore_nil _ _)
  refine except_bind_ok.mpr ⟨writes, ?_, rfl⟩
  rw [hsame]
  exact h.written

/-- **The same request again succeeds, and nothing moves.** -/
theorem Added.again (hresolved : resolveSelection P settings db data.storyIds = .ok resolved)
    (h : Added P settings carouselId db db' resolved writes) (later : Time) :
    ∃ db'' r, addStories P settings db' carouselId data later = .ok (db'', r)
      ∧ DeckUnmoved P settings carouselId db' db'' := by
  obtain ⟨carousel, hc⟩ := h.carousel
  obtain ⟨-, rfl⟩ := getCarousel_id hc
  let edit : DeckEdit := { slides := writes, fresh := [], missing := resolved.missing }
  let next := commitAdd db' { carousel := carousel, slides := deckRows db' carousel.id } edit
    data.sort later
  have hrun : addStories P settings db' carousel.id data later
      = .ok (next, response P settings next (carousel.edited later) resolved.missing) := by
    refine except_bind_ok.mpr ⟨_, loadCarousel_ok.mpr ⟨carousel, hc, rfl⟩, ?_⟩
    exact except_bind_ok.mpr ⟨edit, h.addDeck hresolved, rfl⟩
  -- it is an add like any other, and so an insertion of the same stories
  obtain ⟨resolved', writes', hresolved', hnext⟩ := addStories_insert hrun
  have hsame : resolved' = resolved :=
    Except.ok.inj (hresolved'.symm.trans (resolveSelection_congr h.stories hresolved))
  have hdeck : loadDeck P settings next carousel.id = loadDeck P settings db' carousel.id := by
    rw [hnext.inserted, h.inserted, hsame]
    exact (deckInsertion P settings).insert_insert (List.Subset.refl _)
  have hwrites : writes' = writes := by
    have hwritten := hnext.written
    rw [hdeck, h.written] at hwritten
    exact (Except.ok.inj hwritten).symm
  refine ⟨next, _, hrun, { rows := ?_, deck := hdeck, selections := List.append_nil _ }⟩
  -- the rows are new ones, and say the same
  rw [h.rows, hnext.rows, slideRows_stored, slideRows_stored, hwrites]

end Again

/-! ## §5. The result. -/

/-- **ADDING STORIES IS AN IDEMPOTENT INSERTION**: whatever deck is stored and
whatever is asked for, an accepted add puts the new stories in as one block, and
the same request again, at any time, is accepted and changes nothing. -/
theorem addStories_idempotent (P : Platform) (settings : Settings) (db db' : Db)
    (carouselId : Nat) (data : CarouselRequest settings) (now : Time) (r : CarouselResponse)
    (h : addStories P settings db carouselId data now = .ok (db', r)) :
    StoriesInserted P settings carouselId data.storyIds db db'
      ∧ ∀ later, ∃ db'' r', addStories P settings db' carouselId data later = .ok (db'', r')
          ∧ DeckUnmoved P settings carouselId db' db'' := by
  obtain ⟨resolved, writes, hresolved, hadded⟩ := addStories_insert h
  refine ⟨?_, hadded.again hresolved⟩
  obtain ⟨before, after, hold, hbefore, hafter, hnew⟩ := insertBefore_iff.mp hadded.inserted.symm
  refine { deck := ⟨before, _, after, hold, ?_, ?_, newBlock_fresh hresolved _, ?_⟩,
           positions := ?_ }
  · intro slide hslide
    exact of_decide_eq_false (hbefore slide hslide)
  · intro slide hslide
    exact of_decide_eq_true (hafter slide hslide)
  · rw [hnew, @freshStories_eq P settings]
    rfl
  -- positions are given anew, from zero
  · have hlength := congrArg List.length (asWrite_content hadded.written)
    rw [List.length_map, List.length_map] at hlength
    rw [hadded.rows, slideRows_position, hlength]

/-! ## §6. A deck with a CTA in the middle. -/

/-- A slide written by hand, a CTA, and a Nagpur story behind it, at positions
with gaps and in another table order. -/
def ctaInside : Db :=
  { oneDeck with
    slides := [{ id := 1, carouselId := 1, position := 9, kind := .story
                 articleId := some drainageId, text := "Drainage".toList, clipped := true },
      { id := 2, carouselId := 1, position := 7, kind := .cta, articleId := none
        text := "Follow".toList, clipped := false },
      { id := 3, carouselId := 1, position := 5, kind := .story, articleId := none
        text := "By hand".toList, clipped := false }]
    nextSlide := 4 }

/-- The Pune story goes in before the CTA, and asking again changes nothing. -/
theorem addStories_idempotent_ctaInside :
    ∃ db' r, addStories feedless defaultSettings ctaInside 1
          (selectOne metroId metroId_valid) (seconds 1790000060) = .ok (db', r)
      ∧ StoriesInserted feedless defaultSettings 1 [metroId] ctaInside db'
      ∧ ∀ later, ∃ db'' r', addStories feedless defaultSettings db' 1
            (selectOne metroId metroId_valid) later = .ok (db'', r')
          ∧ DeckUnmoved feedless defaultSettings 1 db' db'' := by
  -- evaluated for the answer alone; the theorem says what it holds
  have hok : (addStories feedless defaultSettings ctaInside 1
      (selectOne metroId metroId_valid) (seconds 1790000060)).toOption.isSome := by
    decide +kernel
  cases h : addStories feedless defaultSettings ctaInside 1
      (selectOne metroId metroId_valid) (seconds 1790000060) with
  | error e =>
      rw [h] at hok
      cases hok
  | ok answer =>
      exact ⟨answer.1, answer.2, rfl, addStories_idempotent feedless defaultSettings ctaInside
        answer.1 1 (selectOne metroId metroId_valid) (seconds 1790000060) answer.2 h⟩

end Feedcast
