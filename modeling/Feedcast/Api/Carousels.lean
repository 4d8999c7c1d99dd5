/-
  Feedcast.Api.Carousels — the carousel endpoints
  (`api/v1/endpoints/carousels.py`).

  A handler is one session: it returns the database after its commit and the
  answer, or the refusal, and a refusal leaves the database as it was.  The two
  writers of an existing deck are split where the handler awaits the database:
  `loadCarousel` first, then what the handler reads and checks (`addDeck`,
  `checkKnown`), then the write.

  `carouselStep` puts the calls together.  Each has one inversion lemma
  (`createCarousel_ok`, …) that says what a successful call did to the
  carousels and the slides.
-/
import Feedcast.Lib.Insertion
import Feedcast.Lib.Runs
import Feedcast.Lib.Except
import Feedcast.Lib.Traverse
import Feedcast.Services.Carousel

namespace Feedcast

open Feedcast.Lib

/-! ## §1. Refusals. -/

/-- `HTTPException`, or the answer to an exception nobody caught. -/
structure HttpError where
  status : Nat
  detail : Str
  deriving Repr, DecidableEq

abbrev Handler (α : Type) := Except HttpError α

def unprocessable (detail : Str) : HttpError := { status := 422, detail := detail }

def notFound (detail : String) : HttpError := { status := 404, detail := detail.toList }

def internalError : HttpError := { status := 500, detail := "Internal Server Error".toList }

/-! ## §2. What the handlers share. -/

/-- `_get`: the carousel with its slides, or a 404. -/
def loadCarousel (db : Db) (carouselId : Nat) : Handler LoadedCarousel :=
  match db.getCarousel carouselId with
  | none => .error (notFound "no such carousel")
  | some carousel => .ok { carousel := carousel, slides := deckRows db carouselId }

/-- `_as_write`. -/
def asWrite (slides : List Slide) : Handler (List SlideWrite) :=
  match slides.mapM Slide.toWrite with
  | some writes => .ok writes
  | none => .error internalError

/-- `carousel.state`. -/
def Carousel.state (carousel : Carousel) : Str :=
  if carousel.lastDownloadedAt.isSome then "downloaded".toList else "draft".toList

/-- The row as the session holds it once it has stamped the edit. -/
def Carousel.edited (carousel : Carousel) (now : Time) : Carousel :=
  { carousel with lastEditedAt := some now }

/-- `_response`. -/
def response (P : Platform) (settings : Settings) (db : Db) (carousel : Carousel)
    (missing : List Str) : CarouselResponse where
  id := carousel.id
  slides := loadDeck P settings db carousel.id
  missingIds := missing
  state := carousel.state
  createdAt := carousel.createdAt
  lastEditedAt := carousel.lastEditedAt
  lastDownloadedAt := carousel.lastDownloadedAt

/-- `_resolve`. -/
def resolveSelection (P : Platform) (settings : Settings) (db : Db) (storyIds : List Str) :
    Handler Resolved :=
  match resolveStories P settings db storyIds with
  | .error message => .error (unprocessable message)
  | .ok resolved =>
      if resolved.stories = [] then
        .error (notFound "none of the selected stories could be found")
      else .ok resolved

/-- The rows `_record` adds. -/
def selectionRows (carouselId next : Nat) (stories : List StoryRead) (sort : Option StorySort) :
    List Selection :=
  stories.mapIdx fun index story =>
    let rated := story.engagement.isSome
    { id := next + index, articleId := story.id
      engagement := if rated then some story.score else none
      score := story.score
      scoreVersion := if rated then some currentScoreVersion else none
      sort := sort, carouselId := some carouselId }

/-- `_record`, flushed. -/
def recordSelections (db : Db) (carouselId : Nat) (stories : List StoryRead)
    (sort : Option StorySort) : Db :=
  { db with
    selections := db.selections ++ selectionRows carouselId db.nextSelection stories sort
    nextSelection := db.nextSelection + stories.length }

/-! ## §3. Create. -/

/-- The deck a selection becomes: an intro, one slide per story, a CTA. -/
def buildDeck (P : Platform) (settings : Settings) (city : City) (stories : List StoryRead)
    (now : Time) : List Slide :=
  let (intro, cta) := bracketSlides (some city.name) (dateLabel stories settings now)
  intro :: stories.map (storySlide P settings) ++ [cta]

/-- `Carousel(city_id=city.id, slides=[])`. -/
def newCarousel (db : Db) (city : City) (now : Time) : Carousel where
  id := db.nextCarousel
  cityId := city.id
  createdAt := now
  lastEditedAt := none
  lastDownloadedAt := none

/-- The flush of a new carousel. -/
def Db.insertCarousel (db : Db) (carousel : Carousel) : Db :=
  { db with carousels := db.carousels ++ [carousel], nextCarousel := db.nextCarousel + 1 }

def createCarousel (P : Platform) (settings : Settings) (db : Db)
    (data : CarouselRequest settings) (now : Time) : Handler (Db × CarouselResponse) := do
  let resolved ← resolveSelection P settings db data.storyIds
  match resolved.city with
  -- the only writer of a deck that looks at the city
  | none =>
      throw (unprocessable
        "a carousel belongs to one city; this selection spans several".toList)
  | some city =>
      let slides ← asWrite (buildDeck P settings city resolved.stories now)
      let carousel := newCarousel db city now
      let saved :=
        saveDeck (db.insertCarousel carousel) { carousel := carousel, slides := [] } slides now
      let db' := recordSelections saved carousel.id resolved.stories data.sort
      return (db', response P settings db' (carousel.edited now) resolved.missing)

/-! ## §4. Add and save. -/

/-- `deck[cta:cta] = new_slides`: before the first CTA, or at the end. -/
def insertBeforeCta (deck new : List Slide) : List Slide :=
  let cta := deck.findIdx fun slide => slide.kind = .cta
  deck.take cta ++ new ++ deck.drop cta

theorem insertBeforeCta_eq (deck new : List Slide) :
    insertBeforeCta deck new = insertBefore (fun slide => slide.kind = .cta) new deck :=
  (insertBefore_eq_take_drop _ _ _).symm

/-- What `add_stories` is about to write. -/
structure DeckEdit where
  slides : List SlideWrite
  fresh : List StoryRead
  missing : List Str

/-- The resolved stories a deck does not name yet. -/
def freshStories (deck : List Slide) (stories : List StoryRead) : List StoryRead :=
  stories.filter fun story => story.id ∉ deck.filterMap (·.storyId)

/-- The slides of a deck that count against the cap. -/
def storyCount (deck : List Slide) : Nat := (deck.filter fun slide => slide.kind = .story).length

/-- The cap on the story slides of a deck. -/
def checkRoom (settings : Settings) (count : Nat) : Handler Unit :=
  if (count : Int) > settings.carouselMaxStories then
    .error (unprocessable ("a carousel holds at most ".toList
      ++ (toString settings.carouselMaxStories).toList ++ " stories".toList))
  else .ok ()

/-- `add_stories` from its reads up to the write. -/
def addDeck (P : Platform) (settings : Settings) (db : Db) (carouselId : Nat)
    (data : CarouselRequest settings) : Handler DeckEdit := do
  let resolved ← resolveSelection P settings db data.storyIds
  let deck := loadDeck P settings db carouselId
  let fresh := freshStories deck resolved.stories
  checkRoom settings (storyCount deck + fresh.length)
  let slides ← asWrite (insertBeforeCta deck (fresh.map (storySlide P settings)))
  return { slides := slides, fresh := fresh, missing := resolved.missing }

/-- The write of `add_stories`. -/
def commitAdd (db : Db) (loaded : LoadedCarousel) (edit : DeckEdit) (sort : Option StorySort)
    (now : Time) : Db :=
  recordSelections (saveDeck db loaded edit.slides now) loaded.carousel.id edit.fresh sort

def addStories (P : Platform) (settings : Settings) (db : Db) (carouselId : Nat)
    (data : CarouselRequest settings) (now : Time) : Handler (Db × CarouselResponse) := do
  let loaded ← loadCarousel db carouselId
  let edit ← addDeck P settings db carouselId data
  let db' := commitAdd db loaded edit data.sort now
  return (db', response P settings db' (loaded.carousel.edited now) edit.missing)

/-- `sorted(named - known)`. -/
def unknownStories (db : Db) (slides : List SlideWrite) : List Str :=
  let named := (slides.filterMap (·.storyId)).eraseDups
  (named.filter fun id => (db.getArticle id).isNone).insertionSort (· ≤ ·)

/-- The check of `save_carousel`. -/
def checkKnown (db : Db) (slides : List SlideWrite) : Handler Unit :=
  let unknown := unknownStories db slides
  if unknown = [] then .ok ()
  else .error (unprocessable ("no such story: ".toList ++ ", ".toList.intercalate unknown))

def saveCarousel (P : Platform) (settings : Settings) (db : Db) (carouselId : Nat)
    (data : DeckWrite settings) (now : Time) : Handler (Db × CarouselResponse) := do
  let loaded ← loadCarousel db carouselId
  checkKnown db data.slides
  let db' := saveDeck db loaded data.slides now
  return (db', response P settings db' (loaded.carousel.edited now) [])

/-! ## §5. Read and delete. -/

def readCarousel (P : Platform) (settings : Settings) (db : Db) (carouselId : Nat) :
    Handler CarouselResponse := do
  let loaded ← loadCarousel db carouselId
  return response P settings db loaded.carousel []

/-- `ON DELETE SET NULL`. -/
def Selection.forget (carouselId : Nat) (selection : Selection) : Selection :=
  if selection.carouselId = some carouselId then { selection with carouselId := none }
  else selection

def deleteCarousel (db : Db) (carouselId : Nat) : Handler Db := do
  let loaded ← loadCarousel db carouselId
  return { db with
    carousels := db.carousels.filter fun carousel => carousel.id ≠ loaded.carousel.id
    slides := db.slides.filter fun row => row.carouselId ≠ loaded.carousel.id
    selections := db.selections.map (Selection.forget loaded.carousel.id) }

/-! ## §6. The zip. -/

/-- The value of a base64 digit. -/
def base64Value (c : Char) : Option Nat :=
  if 'A' ≤ c ∧ c ≤ 'Z' then some (c.toNat - 65)
  else if 'a' ≤ c ∧ c ≤ 'z' then some (c.toNat - 97 + 26)
  else if '0' ≤ c ∧ c ≤ '9' then some (c.toNat - 48 + 52)
  else if c = '+' then some 62
  else if c = '/' then some 63
  else none

/-- `base64.b64decode(_, validate=True)`: digits in fours, padding in the last
four only. -/
def b64decode : Str → Option (List UInt8)
  | [] => some []
  | [a, b, '=', '='] => do
      let n := (← base64Value a) * 64 + (← base64Value b)
      return [UInt8.ofNat (n / 16)]
  | [a, b, c, '='] => do
      let n := ((← base64Value a) * 64 + (← base64Value b)) * 64 + (← base64Value c)
      return [UInt8.ofNat (n / 1024), UInt8.ofNat (n / 4 % 256)]
  | a :: b :: c :: d :: rest => do
      let n := (((← base64Value a) * 64 + (← base64Value b)) * 64 + (← base64Value c)) * 64
        + (← base64Value d)
      let bytes ← b64decode rest
      return UInt8.ofNat (n / 65536) :: UInt8.ofNat (n / 256 % 256) :: UInt8.ofNat (n % 256)
        :: bytes
  | _ => none

/-- `_JPEG_PREFIX`. -/
def jpegPrefix : Str := "data:image/jpeg;base64,".toList

/-- `_decode_jpeg`. -/
def decodeJpeg (encoded : Str) : Handler (List UInt8) :=
  if jpegPrefix.isPrefixOf encoded then
    match b64decode (encoded.drop jpegPrefix.length) with
    | some bytes => .ok bytes
    | none => .error (unprocessable "a slide was not valid base64".toList)
  else .error (unprocessable "slides must be image/jpeg data URLs".toList)

/-- The loop of `zip_slides`: the members of the archive, by name. -/
def archiveSlides (settings : Settings) : Nat → Nat → List Str → Handler (List (Str × List UInt8))
  | _, _, [] => .ok []
  | index, total, encoded :: rest => do
      let payload ← decodeJpeg encoded
      if total + payload.length > settings.zipMaxTotalBytes then
        throw { status := 413, detail := "the carousel is larger than the total cap".toList }
      let members ← archiveSlides settings (index + 1) (total + payload.length) rest
      return ("slide-".toList ++ twoDigits index ++ ".jpg".toList, payload) :: members

def zipSlides (settings : Settings) (db : Db) (carouselId : Nat) (data : ZipRequest settings)
    (now : Time) : Handler (Db × List (Str × List UInt8)) := do
  let members ← archiveSlides settings 1 0 data.images
  -- built, so it is going out: only now the carousel is looked up and stamped
  let loaded ← loadCarousel db carouselId
  return (db.putCarousel { loaded.carousel with lastDownloadedAt := some now }, members)

/-! ## §7. The system. -/

inductive CarouselCall (settings : Settings) where
  | create (data : CarouselRequest settings) (now : Time)
  | addStories (carouselId : Nat) (data : CarouselRequest settings) (now : Time)
  | save (carouselId : Nat) (data : DeckWrite settings) (now : Time)
  | zip (carouselId : Nat) (data : ZipRequest settings) (now : Time)
  | delete (carouselId : Nat)

def CarouselCall.run {settings : Settings} (P : Platform) (db : Db) :
    CarouselCall settings → Handler Db
  | .create data now => (createCarousel P settings db data now).map (·.1)
  | .addStories carouselId data now =>
      (Feedcast.addStories P settings db carouselId data now).map (·.1)
  | .save carouselId data now => (saveCarousel P settings db carouselId data now).map (·.1)
  | .zip carouselId data now => (zipSlides settings db carouselId data now).map (·.1)
  | .delete carouselId => deleteCarousel db carouselId

/-- One request after another; a refused one changes nothing. -/
def carouselStep {settings : Settings} (P : Platform) (db : Db) (call : CarouselCall settings) :
    Option Db :=
  match call.run P db with
  | .ok db' => some db'
  | .error _ => some db

/-! ## §8. What each call does. -/

theorem loadCarousel_ok {db : Db} {carouselId : Nat} {loaded : LoadedCarousel} :
    loadCarousel db carouselId = .ok loaded ↔
      ∃ carousel, db.getCarousel carouselId = some carousel
        ∧ loaded = { carousel := carousel, slides := deckRows db carouselId } := by
  unfold loadCarousel
  cases db.getCarousel carouselId with
  | none => simp
  | some carousel => simp [eq_comm]

theorem getCarousel_id {db : Db} {carouselId : Nat} {carousel : Carousel}
    (h : db.getCarousel carouselId = some carousel) :
    carousel ∈ db.carousels ∧ carousel.id = carouselId :=
  Lib.getRow_some _ h

/-- What `_as_write` hands on is what the editor sees. -/
theorem asWrite_content {slides : List Slide} {writes : List SlideWrite}
    (h : asWrite slides = .ok writes) : writes.map (·.content) = slides.map (·.content) := by
  unfold asWrite at h
  split at h
  · next hm =>
      cases h
      exact map_of_mapM (fun _ _ hw => Slide.toWrite_content hw) hm
  · cases h

theorem asWrite_isOk {slides : List Slide} :
    (∃ writes, asWrite slides = .ok writes) ↔ ∀ slide ∈ slides, slide.Writable := by
  have hmap : (slides.mapM Slide.toWrite).isSome ↔ ∀ slide ∈ slides, slide.Writable := by
    simp only [isSome_mapM, Slide.toWrite_isSome]
  rw [← hmap]
  unfold asWrite
  cases slides.mapM Slide.toWrite with
  | none => simp
  | some writes => simp

theorem resolveSelection_ok {P : Platform} {settings : Settings} {db : Db} {storyIds : List Str}
    {resolved : Resolved} :
    resolveSelection P settings db storyIds = .ok resolved ↔
      ((dedupe storyIds).length : Int) ≤ settings.carouselMaxStories
        ∧ matchingRows db (dedupe storyIds) ≠ []
        ∧ resolved
          = resolveRows P settings (dedupe storyIds) (matchingRows db (dedupe storyIds)) := by
  -- one story for each row that was found
  have hnil : ∀ rows, (resolveRows P settings (dedupe storyIds) rows).stories = [] ↔ rows = [] := by
    intro rows
    unfold resolveRows
    rw [List.map_eq_nil_iff]
    exact ⟨fun h => List.nil_perm.mp (h ▸ sortedDesc_perm _ rows), fun h => by rw [h]; rfl⟩
  unfold resolveSelection resolveStories
  by_cases hcap : ((dedupe storyIds).length : Int) > settings.carouselMaxStories
  · simp [hcap]
  · by_cases hrows : matchingRows db (dedupe storyIds) = []
    · simp [hcap, hnil, hrows]
    · simp only [if_neg hcap, hnil, if_neg hrows, Except.ok.injEq]
      constructor
      · intro h
        subst h
        exact ⟨not_lt.mp hcap, hrows, rfl⟩
      · intro h
        obtain ⟨-, -, rfl⟩ := h
        rfl

theorem createCarousel_ok {P : Platform} {settings : Settings} {db db' : Db}
    {data : CarouselRequest settings} {now : Time} {r : CarouselResponse}
    (h : createCarousel P settings db data now = .ok (db', r)) :
    ∃ resolved city slides,
      resolveSelection P settings db data.storyIds = .ok resolved
        ∧ resolved.city = some city
        ∧ asWrite (buildDeck P settings city resolved.stories now) = .ok slides
        ∧ db' = recordSelections
            (saveDeck (db.insertCarousel (newCarousel db city now))
              { carousel := newCarousel db city now, slides := [] } slides now)
            (newCarousel db city now).id resolved.stories data.sort := by
  unfold createCarousel at h
  obtain ⟨resolved, hresolved, h⟩ := except_bind_ok.mp h
  split at h
  -- the rows name two cities: 422
  · cases h
  · next city hcity =>
      obtain ⟨slides, hslides, h⟩ := except_bind_ok.mp h
      cases h
      exact ⟨resolved, city, slides, hresolved, hcity, hslides, rfl⟩

theorem checkRoom_ok {settings : Settings} {count : Nat} :
    checkRoom settings count = .ok () ↔ (count : Int) ≤ settings.carouselMaxStories := by
  unfold checkRoom
  by_cases h : (count : Int) > settings.carouselMaxStories
  · simp [h]
  · simpa [h] using not_lt.mp h

theorem addDeck_ok {P : Platform} {settings : Settings} {db : Db} {carouselId : Nat}
    {data : CarouselRequest settings} {edit : DeckEdit}
    (h : addDeck P settings db carouselId data = .ok edit) :
    ∃ resolved,
      resolveSelection P settings db data.storyIds = .ok resolved
        ∧ edit.fresh = freshStories (loadDeck P settings db carouselId) resolved.stories
        ∧ ((storyCount (loadDeck P settings db carouselId) + edit.fresh.length : Nat) : Int)
            ≤ settings.carouselMaxStories
        ∧ asWrite (insertBeforeCta (loadDeck P settings db carouselId)
            (edit.fresh.map (storySlide P settings))) = .ok edit.slides
        ∧ edit.missing = resolved.missing := by
  -- the three checks, each of which may have refused
  unfold addDeck at h
  obtain ⟨resolved, hresolved, h⟩ := except_bind_ok.mp h
  obtain ⟨_, hroom, h⟩ := except_bind_ok.mp h
  obtain ⟨slides, hslides, h⟩ := except_bind_ok.mp h
  cases h
  exact ⟨resolved, hresolved, rfl, checkRoom_ok.mp hroom, hslides, rfl⟩

/-- The distinct ids of a selection that have a story, and that the deck does
not name yet. -/
def newStories (db : Db) (carouselId : Nat) (storyIds : List Str) : List Str :=
  (dedupe storyIds).filter fun id =>
    (storyRow db id).isSome ∧ id ∉ (deckRows db carouselId).filterMap (·.articleId)

theorem newStories_nodup (db : Db) (carouselId : Nat) (storyIds : List Str) :
    (newStories db carouselId storyIds).Nodup :=
  (dedupe_nodup storyIds).filter _

/-- **The fresh stories of an add**, by id. -/
theorem freshStories_ids (P : Platform) (settings : Settings) (db : Db) (carouselId : Nat)
    (storyIds : List Str) :
    ((freshStories (loadDeck P settings db carouselId)
        (resolveRows P settings (dedupe storyIds)
          (matchingRows db (dedupe storyIds))).stories).map (·.id)).Perm
      (newStories db carouselId storyIds) := by
  have hfilter : ∀ stories : List StoryRead,
      (freshStories (loadDeck P settings db carouselId) stories).map (·.id)
        = (stories.map (·.id)).filter fun id =>
            id ∉ (deckRows db carouselId).filterMap (·.articleId) := by
    intro stories
    unfold freshStories
    rw [List.filter_map]
    congr 1
    refine List.filter_congr ?_
    intro story _
    simp only [Function.comp_apply, mem_loadDeck_storyIds P settings]
    simp only [List.mem_filterMap]
  -- known and not in the deck, in either order of asking
  have hboth : newStories db carouselId storyIds
      = ((dedupe storyIds).filter fun id => (storyRow db id).isSome).filter fun id =>
          id ∉ (deckRows db carouselId).filterMap (·.articleId) := by
    unfold newStories
    rw [List.filter_filter]
    refine List.filter_congr ?_
    intro id _
    simp [Bool.and_comm]
  rw [hfilter, hboth]
  exact (resolveRows_ids P settings db (dedupe storyIds)).filter _

/-- An accepted add answers with the deck it stored. -/
theorem addStories_answer {P : Platform} {settings : Settings} {db db' : Db} {carouselId : Nat}
    {data : CarouselRequest settings} {now : Time} {result : CarouselResponse}
    (h : addStories P settings db carouselId data now = .ok (db', result)) :
    ∃ carousel edit,
      db.getCarousel carouselId = some carousel
        ∧ addDeck P settings db carouselId data = .ok edit
        ∧ db' = commitAdd db { carousel := carousel, slides := deckRows db carouselId } edit
            data.sort now
        ∧ result = response P settings db' (carousel.edited now) edit.missing := by
  unfold addStories at h
  obtain ⟨loaded, hloaded, h⟩ := except_bind_ok.mp h
  obtain ⟨edit, hedit, h⟩ := except_bind_ok.mp h
  obtain ⟨carousel, hc, rfl⟩ := loadCarousel_ok.mp hloaded
  cases h
  exact ⟨carousel, edit, hc, hedit, rfl, rfl⟩

theorem addStories_ok {P : Platform} {settings : Settings} {db db' : Db} {carouselId : Nat}
    {data : CarouselRequest settings} {now : Time} {r : CarouselResponse}
    (h : addStories P settings db carouselId data now = .ok (db', r)) :
    ∃ carousel edit,
      db.getCarousel carouselId = some carousel
        ∧ addDeck P settings db carouselId data = .ok edit
        ∧ db' = commitAdd db { carousel := carousel, slides := deckRows db carouselId } edit
            data.sort now := by
  obtain ⟨carousel, edit, hc, hedit, hdb, -⟩ := addStories_answer h
  exact ⟨carousel, edit, hc, hedit, hdb⟩

theorem checkKnown_ok {db : Db} {slides : List SlideWrite} :
    checkKnown db slides = .ok () ↔ unknownStories db slides = [] := by
  unfold checkKnown
  by_cases h : unknownStories db slides = []
  · simp [h]
  · simp [h]

theorem saveCarousel_ok {P : Platform} {settings : Settings} {db db' : Db} {carouselId : Nat}
    {data : DeckWrite settings} {now : Time} {r : CarouselResponse}
    (h : saveCarousel P settings db carouselId data now = .ok (db', r)) :
    ∃ carousel,
      db.getCarousel carouselId = some carousel
        ∧ unknownStories db data.slides = []
        ∧ db' = saveDeck db { carousel := carousel, slides := deckRows db carouselId }
            data.slides now := by
  unfold saveCarousel at h
  obtain ⟨loaded, hloaded, h⟩ := except_bind_ok.mp h
  obtain ⟨_, hknown, h⟩ := except_bind_ok.mp h
  obtain ⟨carousel, hc, rfl⟩ := loadCarousel_ok.mp hloaded
  cases h
  exact ⟨carousel, hc, checkKnown_ok.mp hknown, rfl⟩

theorem zipSlides_ok {settings : Settings} {db db' : Db} {carouselId : Nat}
    {data : ZipRequest settings} {now : Time} {members : List (Str × List UInt8)}
    (h : zipSlides settings db carouselId data now = .ok (db', members)) :
    ∃ carousel,
      archiveSlides settings 1 0 data.images = .ok members
        ∧ db.getCarousel carouselId = some carousel
        ∧ db' = db.putCarousel { carousel with lastDownloadedAt := some now } := by
  unfold zipSlides at h
  obtain ⟨members', harchive, h⟩ := except_bind_ok.mp h
  obtain ⟨loaded, hloaded, h⟩ := except_bind_ok.mp h
  obtain ⟨carousel, hc, rfl⟩ := loadCarousel_ok.mp hloaded
  cases h
  exact ⟨carousel, harchive, hc, rfl⟩

theorem deleteCarousel_ok {db db' : Db} {carouselId : Nat}
    (h : deleteCarousel db carouselId = .ok db') :
    ∃ carousel,
      db.getCarousel carouselId = some carousel
        ∧ db' = { db with
            carousels := db.carousels.filter fun c => c.id ≠ carousel.id
            slides := db.slides.filter fun row => row.carouselId ≠ carousel.id
            selections := db.selections.map (Selection.forget carousel.id) } := by
  unfold deleteCarousel at h
  obtain ⟨loaded, hloaded, h⟩ := except_bind_ok.mp h
  obtain ⟨carousel, hc, rfl⟩ := loadCarousel_ok.mp hloaded
  cases h
  exact ⟨carousel, hc, rfl⟩

end Feedcast
