/-
  Feedcast.Services.Carousel — resolving a selection into the stories a carousel
  is built from, and the stored deck (`services/carousel.py`).

  A deck is replaced through the collection a session has loaded: the rows it
  had in hand are deleted by primary key and the new ones inserted.  What that
  does when another session has been there in between is part of `replaceSlides`.
-/
import Feedcast.Schemas.Carousel
import Feedcast.Services.Stories

namespace Feedcast

/-! ## §1. Resolving a selection. -/

/-- `list(dict.fromkeys(ids))`: the first occurrence of each. -/
def dedupe (ids : List Str) : List Str := ids.eraseDups

/-- The rows of the wanted articles, which the database returns in any order. -/
def matchingRows (db : Db) (wanted : List Str) : List StoryRow := wanted.filterMap (storyRow db)

/-- The one city of the rows, when they share one. -/
def singleCity : List StoryRow → Option City
  | [] => none
  | row :: rows => if rows.all fun r => r.city.id = row.city.id then some row.city else none

/-- What `resolve_stories` returns. -/
structure Resolved where
  stories : List StoryRead
  missing : List Str
  city : Option City

/-- `resolve_stories`, from the rows the database returned. -/
def resolveRows (P : Platform) (settings : Settings) (wanted : List Str) (rows : List StoryRow) :
    Resolved :=
  let ranked := sortedDesc (fun row => engagementSortKey settings row.rankInputs) rows
  let stories := ranked.map (projectStory P settings)
  { stories := stories
    missing := wanted.filter fun id => id ∉ stories.map (·.id)
    city := singleCity rows }

theorem dedupe_nodup (ids : List Str) : (dedupe ids).Nodup := by
  unfold dedupe
  -- what follows an id has had that id filtered out
  induction hn : ids.length using Nat.strong_induction_on generalizing ids with
  | _ n ih =>
      cases ids with
      | nil => simp
      | cons id rest =>
          rw [List.eraseDups_cons, List.nodup_cons]
          have hshort : (rest.filter fun x => !x == id).length < n := by
            rw [← hn, List.length_cons]
            exact Nat.lt_succ_of_le (List.length_filter_le _ _)
          exact ⟨by simp [List.mem_eraseDups], ih _ hshort _ rfl⟩

/-- Ids that are distinct already stay as they are. -/
theorem dedupe_of_nodup {ids : List Str} (h : ids.Nodup) : dedupe ids = ids := by
  unfold dedupe
  induction ids with
  | nil => rfl
  | cons id rest ih =>
      obtain ⟨hid, hrest⟩ := List.nodup_cons.mp h
      -- no later id equals the first, so none is filtered out
      have hkept : (rest.filter fun x => !x == id) = rest := by
        refine List.filter_eq_self.mpr ?_
        intro x hx
        have hne : x ≠ id := fun heq => hid (heq ▸ hx)
        simpa using hne
      rw [List.eraseDups_cons, hkept, ih hrest]

/-- The ids of the matching rows: those asked for that have a row. -/
theorem matchingRows_ids (db : Db) (wanted : List Str) :
    (matchingRows db wanted).map (·.article.id)
      = wanted.filter fun id => (storyRow db id).isSome := by
  unfold matchingRows
  induction wanted with
  | nil => rfl
  | cons id wanted ih =>
      cases hrow : storyRow db id with
      | none => simp [hrow, ih]
      | some row => simp [hrow, ih, storyRow_id hrow]

theorem mem_matchingRows {db : Db} {wanted : List Str} {row : StoryRow} :
    row ∈ matchingRows db wanted ↔ ∃ storyId ∈ wanted, storyRow db storyId = some row :=
  List.mem_filterMap

theorem singleCity_some {rows : List StoryRow} {city : City} (h : singleCity rows = some city) :
    ∀ row ∈ rows, row.city.id = city.id := by
  unfold singleCity at h
  split at h
  · cases h
  · next first rows =>
      split at h
      · next hall =>
          cases h
          intro row hrow
          -- the first row gives the city, the others were compared with it
          rcases List.mem_cons.mp hrow with rfl | hrow
          · rfl
          · simpa using List.all_eq_true.mp hall row hrow
      · cases h

theorem mem_resolveRows {P : Platform} {settings : Settings} {wanted : List Str}
    {rows : List StoryRow} {story : StoryRead} :
    story ∈ (resolveRows P settings wanted rows).stories ↔
      ∃ row ∈ rows, projectStory P settings row = story := by
  unfold resolveRows
  rw [List.mem_map]
  -- sorting keeps the rows, whichever order they came in
  constructor
  · intro h
    obtain ⟨row, hrow, rfl⟩ := h
    exact ⟨row, (sortedDesc_perm _ rows).mem_iff.mp hrow, rfl⟩
  · intro h
    obtain ⟨row, hrow, rfl⟩ := h
    exact ⟨row, (sortedDesc_perm _ rows).mem_iff.mpr hrow, rfl⟩

/-- **The stories a selection resolves to**, by id: one for each distinct id
that has a row. -/
theorem resolveRows_ids (P : Platform) (settings : Settings) (db : Db) (wanted : List Str) :
    ((resolveRows P settings wanted (matchingRows db wanted)).stories.map (·.id)).Perm
      (wanted.filter fun id => (storyRow db id).isSome) := by
  rw [← matchingRows_ids]
  unfold resolveRows
  rw [List.map_map]
  exact (sortedDesc_perm _ _).map _

/-- `str(exc)` of a `TooManyStoriesError`. -/
def tooManyStoriesMessage (cap : Int) : Str :=
  "select at most ".toList ++ (toString cap).toList ++ " stories for one carousel".toList

/-- `resolve_stories`. -/
def resolveStories (P : Platform) (settings : Settings) (db : Db) (storyIds : List Str) :
    Raises Resolved :=
  let wanted := dedupe storyIds
  if (wanted.length : Int) > settings.carouselMaxStories then
    .error (tooManyStoriesMessage settings.carouselMaxStories)
  else .ok (resolveRows P settings wanted (matchingRows db wanted))

/-! ## §2. Slides. -/

/-- The proleptic Gregorian date of a day counted from the epoch, as year,
month and day. -/
def civilDate (day : Int) : Int × Nat × Nat :=
  -- years run from March, so that the leap day is the last
  let z := day + 719468
  let era := z / 146097
  let doe := z - era * 146097
  let yoe := (doe - doe / 1460 + doe / 36524 - doe / 146096) / 365
  let doy := doe - (365 * yoe + yoe / 4 - yoe / 100)
  let mp := (5 * doy + 2) / 153
  let month := if mp < 10 then mp + 3 else mp - 9
  let year := yoe + era * 400 + (if month ≤ 2 then 1 else 0)
  (year, month.toNat, (doy - (153 * mp + 2) / 5 + 1).toNat)

def monthName (month : Nat) : Str :=
  (["January", "February", "March", "April", "May", "June", "July", "August", "September",
    "October", "November", "December"].getD (month - 1) "").toList

/-- `f"{n:02d}"`. -/
def twoDigits (n : Nat) : Str := if n < 10 then '0' :: (toString n).toList else (toString n).toList

/-- `date_label`: the newest story's own date, in the newsroom's timezone. -/
def dateLabel (stories : List StoryRead) (settings : Settings) (now : Time) : Str :=
  let newest := ((stories.map (·.publishedAt)).max?).getD now
  let (year, month, day) := civilDate
    ((newest + seconds (settings.carouselTimezone newest)) / hours 24)
  twoDigits day ++ ' ' :: monthName month ++ ' ' :: (toString year).toList

example : dateLabel [] defaultSettings (seconds 1790000000) = "21 September 2026".toList := by
  decide +kernel

/-- `story_slide`. -/
def storySlide (P : Platform) (settings : Settings) (story : StoryRead) : Slide :=
  let (text, clipped) := clip P (some story.title) settings.slideTextMaxChars
  { kind := .story, storyId := some story.id, text := text, clipped := clipped
    sourceName := some story.sourceName, url := some story.url, category := story.category
    score := story.shownScore }

/-- `bracket_slides`. -/
def bracketSlides (cityName : Option Str) (date : Str) : Slide × Slide :=
  let place := (truthy cityName).getD "your city".toList
  ({ kind := .intro, storyId := none, text := "Top news\n".toList ++ place ++ '\n' :: date
     clipped := false, sourceName := none },
   { kind := .cta, storyId := none
     text := "Follow for daily\n".toList ++ place ++ " news".toList
     clipped := false, sourceName := none })

/-! ## §3. The stored deck. -/

/-- A carousel with its slides in hand. -/
structure LoadedCarousel where
  carousel : Carousel
  slides : List CarouselSlide
  deriving Repr, DecidableEq

/-- The slide rows of a carousel. -/
def deckRows (db : Db) (carouselId : Nat) : List CarouselSlide :=
  db.slides.filter fun row => row.carouselId = carouselId

/-- The rows that write a deck, numbered from `next`. -/
def slideRows (carouselId next : Nat) (slides : List SlideWrite) : List CarouselSlide :=
  slides.mapIdx fun index slide =>
    { id := next + index, carouselId := carouselId, position := index, kind := slide.kind
      articleId := slide.storyId, text := slide.text, clipped := slide.clipped }

@[simp] theorem slideRows_content (carouselId next : Nat) (slides : List SlideWrite) :
    (slideRows carouselId next slides).map (·.content) = slides.map (·.content) := by
  refine List.ext_getElem (by simp [slideRows]) ?_
  intro i _ _
  simp [slideRows, CarouselSlide.content, SlideWrite.content]

theorem slideRows_carousel {carouselId next : Nat} {slides : List SlideWrite}
    {row : CarouselSlide} (h : row ∈ slideRows carouselId next slides) :
    row.carouselId = carouselId := by
  obtain ⟨index, hi, rfl⟩ := List.mem_mapIdx.mp h
  rfl

/-- The flush of a replaced collection. -/
def Db.replaceSlides (db : Db) (loaded : LoadedCarousel) (slides : List SlideWrite) : Db :=
  { db with
    slides := (db.slides.filter fun row => row.id ∉ loaded.slides.map (·.id))
      ++ slideRows loaded.carousel.id db.nextSlide slides
    nextSlide := db.nextSlide + slides.length }

/-- The UPDATE that stamps an edit. -/
def Db.stampEdited (db : Db) (carouselId : Nat) (now : Time) : Db :=
  { db with carousels := db.carousels.map fun carousel =>
      if carousel.id = carouselId then { carousel with lastEditedAt := some now } else carousel }

/-- An edit is stamped on rows that were there, and on nothing else of them. -/
theorem mem_stampEdited {db : Db} {carouselId : Nat} {now : Time} {carousel' : Carousel}
    (h : carousel' ∈ (db.stampEdited carouselId now).carousels) :
    ∃ carousel ∈ db.carousels, ∃ edited, carousel' = { carousel with lastEditedAt := edited } := by
  obtain ⟨carousel, hmem, rfl⟩ := List.mem_map.mp h
  refine ⟨carousel, hmem, ?_⟩
  split
  · exact ⟨some now, rfl⟩
  · exact ⟨carousel.lastEditedAt, rfl⟩

/-- `save_deck`, flushed. -/
def saveDeck (db : Db) (loaded : LoadedCarousel) (slides : List SlideWrite) (now : Time) : Db :=
  (db.replaceSlides loaded slides).stampEdited loaded.carousel.id now

/-- A save deletes the rows it had in hand and inserts its own. -/
theorem mem_saveDeck_slides {db : Db} {loaded : LoadedCarousel} {slides : List SlideWrite}
    {now : Time} {row : CarouselSlide} :
    row ∈ (saveDeck db loaded slides now).slides ↔
      (row ∈ db.slides ∧ row.id ∉ loaded.slides.map (·.id))
        ∨ row ∈ slideRows loaded.carousel.id db.nextSlide slides := by
  show row ∈ (db.slides.filter _) ++ _ ↔ _
  rw [List.mem_append, List.mem_filter, decide_eq_true_iff]

/-- The rows of a carousel after a save: those its session had not in hand, and
its own. -/
theorem deckRows_saveDeck (db : Db) (loaded : LoadedCarousel) (slides : List SlideWrite)
    (now : Time) :
    deckRows (saveDeck db loaded slides now) loaded.carousel.id
      = (deckRows db loaded.carousel.id).filter (fun row => row.id ∉ loaded.slides.map (·.id))
        ++ slideRows loaded.carousel.id db.nextSlide slides := by
  -- the insert is all of this carousel; the delete commutes with the choice of its rows
  unfold deckRows
  show ((db.slides.filter _) ++ slideRows loaded.carousel.id db.nextSlide slides).filter _ = _
  rw [List.filter_append, List.filter_filter, List.filter_filter]
  congr 1
  · exact List.filter_congr fun row _ => Bool.and_comm _ _
  · refine List.filter_eq_self.mpr ?_
    intro row hrow
    exact decide_eq_true (slideRows_carousel hrow)

/-- **A session that had all the rows in hand leaves just its own.** -/
theorem deckRows_saveDeck_self (db : Db) (carousel : Carousel) (slides : List SlideWrite)
    (now : Time) :
    deckRows (saveDeck db { carousel := carousel, slides := deckRows db carousel.id } slides now)
        carousel.id
      = slideRows carousel.id db.nextSlide slides := by
  refine (deckRows_saveDeck _ _ _ _).trans ?_
  -- every stored row of the carousel is among those replaced
  have hgone : (deckRows db carousel.id).filter
      (fun row => row.id ∉ (deckRows db carousel.id).map (·.id)) = [] := by
    refine List.filter_eq_nil_iff.mpr ?_
    intro row hrow hnot
    exact of_decide_eq_true hnot (List.mem_map_of_mem hrow)
  rw [hgone, List.nil_append]

/-- One slide of `load_deck`, with what its story adds to it. -/
def loadSlide (P : Platform) (settings : Settings) (db : Db) (row : CarouselSlide) : Slide :=
  let story := (row.articleId.bind (storyRow db)).map (projectStory P settings)
  { kind := row.kind, storyId := row.articleId, text := row.text, clipped := row.clipped
    sourceName := story.map (·.sourceName), url := story.map (·.url)
    category := story.bind (·.category), score := story.bind (·.shownScore) }

/-- `load_deck`.  Rows of one position come in table order. -/
def loadDeck (P : Platform) (settings : Settings) (db : Db) (carouselId : Nat) : List Slide :=
  ((deckRows db carouselId).insertionSort fun a b => a.position ≤ b.position).map
    (loadSlide P settings db)

/-- `article_states`: the badge of a story a deck holds; a downloaded deck wins
over a draft. -/
def articleStates (db : Db) (articleIds : List Str) (id : Str) : Option CarouselState :=
  if id ∈ articleIds then
    let holding := (db.slides.filter fun slide => slide.articleId = some id).filterMap
      fun slide => db.getCarousel slide.carouselId
    if holding = [] then none
    else if holding.any fun carousel => carousel.lastDownloadedAt.isSome then some .downloaded
    else some .inDraft
  else none

/-- The stories a deck names are those of its rows. -/
theorem mem_loadDeck_storyIds (P : Platform) (settings : Settings) {db : Db} {carouselId : Nat}
    {storyId : Str} :
    storyId ∈ (loadDeck P settings db carouselId).filterMap (·.storyId) ↔
      ∃ row ∈ deckRows db carouselId, row.articleId = some storyId := by
  unfold loadDeck
  rw [List.filterMap_map, List.mem_filterMap]
  -- loading sorts the rows and drops none
  constructor
  · intro h
    obtain ⟨row, hrow, hid⟩ := h
    exact ⟨row, (List.perm_insertionSort _ _).mem_iff.mp hrow, hid⟩
  · intro h
    obtain ⟨row, hrow, hid⟩ := h
    exact ⟨row, (List.perm_insertionSort _ _).mem_iff.mpr hrow, hid⟩

end Feedcast
