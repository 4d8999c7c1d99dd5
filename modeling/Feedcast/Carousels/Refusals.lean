/-
  Feedcast.Carousels.Refusals — what a refused request leaves behind
  (`api/v1/endpoints/carousels.py`).

  Here the handlers are written as the sessions they are: with the row that is
  flushed before the deck is checked, and the commit that comes last.  They come
  to the same answers and the same database as the handlers of `Api.Carousels`,
  and where they refuse, what they had flushed is rolled back:

    • `CarouselCall.work_comesTo` — the session of a call comes to what its
      handler does,
    • `CarouselCall.work_atomic` — it commits nothing if it raises,
    • `refused_changes_nothing` — so a refusal changes none of the tables.
-/
import Feedcast.Carousels.Capacity
import Feedcast.Carousels.SlideText
import Feedcast.Lib.Session

namespace Feedcast

open Feedcast.Lib

/-! ## §1. The handlers as sessions. -/

abbrev Work (α : Type) := Session Db HttpError α

/-- `create_carousel`. -/
def createCarouselWork (P : Platform) (settings : Settings) (data : CarouselRequest settings)
    (now : Time) : Work CarouselResponse := do
  let resolved ← Session.ask fun db => resolveSelection P settings db data.storyIds
  match resolved.city with
  | none =>
      Session.raise (unprocessable
        "a carousel belongs to one city; this selection spans several".toList)
  | some city =>
      let carousel ← Session.query fun db => newCarousel db city now
      -- the flush inserts the row before the deck is made out
      Session.draw fun db => { db with nextCarousel := db.nextCarousel + 1 }
      Session.write fun db => { db with carousels := db.carousels ++ [carousel] }
      let slides ← Session.ask fun _ => asWrite (buildDeck P settings city resolved.stories now)
      Session.write fun db => saveDeck db { carousel := carousel, slides := [] } slides now
      Session.write fun db => recordSelections db carousel.id resolved.stories data.sort
      Session.commit
      Session.query fun db => response P settings db (carousel.edited now) resolved.missing

/-- `add_stories`. -/
def addStoriesWork (P : Platform) (settings : Settings) (carouselId : Nat)
    (data : CarouselRequest settings) (now : Time) : Work CarouselResponse := do
  let loaded ← Session.ask fun db => loadCarousel db carouselId
  let resolved ← Session.ask fun db => resolveSelection P settings db data.storyIds
  let deck ← Session.query fun db => loadDeck P settings db carouselId
  let fresh := freshStories deck resolved.stories
  Session.ask fun _ => checkRoom settings (storyCount deck + fresh.length)
  let slides ← Session.ask fun _ =>
    asWrite (insertBeforeCta deck (fresh.map (storySlide P settings)))
  Session.write fun db => saveDeck db loaded slides now
  Session.write fun db => recordSelections db loaded.carousel.id fresh data.sort
  Session.commit
  Session.query fun db =>
    response P settings db (loaded.carousel.edited now) resolved.missing

/-- `save_carousel`. -/
def saveCarouselWork (P : Platform) (settings : Settings) (carouselId : Nat)
    (data : DeckWrite settings) (now : Time) : Work CarouselResponse := do
  let loaded ← Session.ask fun db => loadCarousel db carouselId
  Session.ask fun db => checkKnown db data.slides
  Session.write fun db => saveDeck db loaded data.slides now
  Session.commit
  Session.query fun db => response P settings db (loaded.carousel.edited now) []

/-- `zip_slides`. -/
def zipSlidesWork (settings : Settings) (carouselId : Nat) (data : ZipRequest settings)
    (now : Time) : Work (List (Str × List UInt8)) := do
  let members ← Session.ask fun _ => archiveSlides settings 1 0 data.images
  let loaded ← Session.ask fun db => loadCarousel db carouselId
  Session.write fun db => db.putCarousel { loaded.carousel with lastDownloadedAt := some now }
  Session.commit
  return members

/-- `delete_carousel`. -/
def deleteCarouselWork (carouselId : Nat) : Work Unit := do
  let loaded ← Session.ask fun db => loadCarousel db carouselId
  Session.write fun db => { db with
    carousels := db.carousels.filter fun carousel => carousel.id ≠ loaded.carousel.id
    slides := db.slides.filter fun row => row.carouselId ≠ loaded.carousel.id
    selections := db.selections.map (Selection.forget loaded.carousel.id) }
  Session.commit

/-- A call, run as the session it is. -/
def CarouselCall.work {settings : Settings} (P : Platform) : CarouselCall settings → Work Unit
  | .create data now => do
      let _ ← createCarouselWork P settings data now
      return ()
  | .addStories carouselId data now => do
      let _ ← addStoriesWork P settings carouselId data now
      return ()
  | .save carouselId data now => do
      let _ ← saveCarouselWork P settings carouselId data now
      return ()
  | .zip carouselId data now => do
      let _ ← zipSlidesWork settings carouselId data now
      return ()
  | .delete carouselId => deleteCarouselWork carouselId

/-! ## §2. What the sessions come to. -/

section Sessions

variable {P : Platform} {settings : Settings} {db : Db}

theorem createCarouselWork_comesTo (data : CarouselRequest settings) (now : Time) :
    Session.ComesTo (createCarouselWork P settings data now) { committed := db, view := db }
      (createCarousel P settings db data now) := by
  unfold createCarousel createCarouselWork
  refine Session.comesTo_ask fun resolved _ => ?_
  cases resolved.city with
  | none => exact Session.comesTo_raise
  | some city =>
      refine Session.comesTo_query (Session.comesTo_draw (Session.comesTo_write ?_))
      refine Session.comesTo_ask fun slides _ => ?_
      exact Session.comesTo_write (Session.comesTo_write
        (Session.comesTo_commit Session.comesTo_answer))

theorem addStoriesWork_comesTo (carouselId : Nat) (data : CarouselRequest settings) (now : Time) :
    Session.ComesTo (addStoriesWork P settings carouselId data now)
      { committed := db, view := db } (addStories P settings db carouselId data now) := by
  unfold addStories addStoriesWork addDeck
  -- the reads of `addDeck` are statements of the session like the others
  simp only [bind_assoc, pure_bind]
  refine Session.comesTo_ask fun loaded _ => ?_
  refine Session.comesTo_ask fun resolved _ => ?_
  refine Session.comesTo_query ?_
  refine Session.comesTo_ask fun _ _ => ?_
  refine Session.comesTo_ask fun slides _ => ?_
  exact Session.comesTo_write (Session.comesTo_write
    (Session.comesTo_commit Session.comesTo_answer))

theorem saveCarouselWork_comesTo (carouselId : Nat) (data : DeckWrite settings) (now : Time) :
    Session.ComesTo (saveCarouselWork P settings carouselId data now)
      { committed := db, view := db } (saveCarousel P settings db carouselId data now) := by
  unfold saveCarousel saveCarouselWork
  refine Session.comesTo_ask fun loaded _ => ?_
  refine Session.comesTo_ask fun _ _ => ?_
  exact Session.comesTo_write (Session.comesTo_commit Session.comesTo_answer)

theorem zipSlidesWork_comesTo (carouselId : Nat) (data : ZipRequest settings) (now : Time) :
    Session.ComesTo (zipSlidesWork settings carouselId data now)
      { committed := db, view := db } (zipSlides settings db carouselId data now) := by
  unfold zipSlides zipSlidesWork
  refine Session.comesTo_ask fun members _ => ?_
  refine Session.comesTo_ask fun loaded _ => ?_
  exact Session.comesTo_write (Session.comesTo_commit Session.comesTo_return)

theorem deleteCarouselWork_comesTo (carouselId : Nat) :
    Session.ComesTo (deleteCarouselWork carouselId) { committed := db, view := db }
      ((deleteCarousel db carouselId).map fun db' => (db', ())) := by
  -- the pure function, read as a load and one write
  have hform : (deleteCarousel db carouselId).map (fun db' => (db', ()))
      = loadCarousel db carouselId >>= fun loaded => Except.ok ({ db with
          carousels := db.carousels.filter fun carousel => carousel.id ≠ loaded.carousel.id
          slides := db.slides.filter fun row => row.carouselId ≠ loaded.carousel.id
          selections := db.selections.map (Selection.forget loaded.carousel.id) }, ()) := by
    unfold deleteCarousel
    cases loadCarousel db carouselId with
    | error e => rfl
    | ok loaded => rfl
  rw [hform]
  unfold deleteCarouselWork
  refine Session.comesTo_ask fun loaded _ => ?_
  exact Session.comesTo_write Session.comesTo_committed

/-- **The sessions are the handlers**: every call comes to what its handler
does. -/
theorem CarouselCall.work_comesTo (call : CarouselCall settings) :
    Session.ComesTo (call.work P) { committed := db, view := db }
      ((call.run P db).map fun db' => (db', ())) := by
  cases call with
  | create data now => exact (createCarouselWork_comesTo data now).drop
  | addStories carouselId data now => exact (addStoriesWork_comesTo carouselId data now).drop
  | save carouselId data now => exact (saveCarouselWork_comesTo carouselId data now).drop
  | zip carouselId data now => exact (zipSlidesWork_comesTo carouselId data now).drop
  | delete carouselId => exact deleteCarouselWork_comesTo carouselId

theorem CarouselCall.work_run_ok {call : CarouselCall settings} {db' : Db}
    (h : call.run P db = .ok db') : (call.work P).run db = (.ok (), db') := by
  have hwork := @CarouselCall.work_comesTo P settings db call
  rw [h] at hwork
  exact hwork.run_ok

theorem CarouselCall.work_run_error {call : CarouselCall settings} {error : HttpError}
    (h : call.run P db = .error error) : ∃ db', (call.work P).run db = (.error error, db') := by
  have hwork := @CarouselCall.work_comesTo P settings db call
  rw [h] at hwork
  exact hwork.run_error

end Sessions

/-! ## §3. What a refusal leaves behind. -/

/-- What a rollback brings back: everything but the sequences. -/
def Db.tables (db : Db) : Db := { db with nextCarousel := 0, nextSlide := 0, nextSelection := 0 }

section Atomic

variable {P : Platform} {settings : Settings}

/-- The end of every handler: the commit, and an answer that is read after it. -/
theorem commit_then_answer {α : Type} (f : Db → α) :
    Session.Atomic Db.tables (Session.commit >>= fun _ => (Session.query f : Work α)) :=
  (Session.safe_commit.bind fun _ => Session.safe_query f).atomic

/-- **Create** flushes a row before it checks the deck, and commits after. -/
theorem createCarouselWork_atomic (data : CarouselRequest settings) (now : Time) :
    Session.Atomic Db.tables (createCarouselWork P settings data now) := by
  unfold createCarouselWork
  refine (Session.tentative_ask _).bind_atomic fun resolved => ?_
  cases resolved.city with
  | none => exact (Session.tentative_raise _).atomic
  | some city =>
      refine (Session.tentative_query _).bind_atomic fun carousel => ?_
      -- the id is spent for good, but `tables` does not look at the sequence
      refine (Session.tentative_draw ?_).bind_atomic fun _ => ?_
      · intro db
        rfl
      refine (Session.tentative_write _).bind_atomic fun _ => ?_
      refine (Session.tentative_ask _).bind_atomic fun slides => ?_
      refine (Session.tentative_write _).bind_atomic fun _ => ?_
      refine (Session.tentative_write _).bind_atomic fun _ => ?_
      exact commit_then_answer _

theorem addStoriesWork_atomic (carouselId : Nat) (data : CarouselRequest settings) (now : Time) :
    Session.Atomic Db.tables (addStoriesWork P settings carouselId data now) := by
  unfold addStoriesWork
  refine (Session.tentative_ask _).bind_atomic fun loaded => ?_
  refine (Session.tentative_ask _).bind_atomic fun resolved => ?_
  refine (Session.tentative_query _).bind_atomic fun deck => ?_
  refine (Session.tentative_ask _).bind_atomic fun _ => ?_
  refine (Session.tentative_ask _).bind_atomic fun slides => ?_
  refine (Session.tentative_write _).bind_atomic fun _ => ?_
  refine (Session.tentative_write _).bind_atomic fun _ => ?_
  exact commit_then_answer _

theorem saveCarouselWork_atomic (carouselId : Nat) (data : DeckWrite settings) (now : Time) :
    Session.Atomic Db.tables (saveCarouselWork P settings carouselId data now) := by
  unfold saveCarouselWork
  refine (Session.tentative_ask _).bind_atomic fun loaded => ?_
  refine (Session.tentative_ask _).bind_atomic fun _ => ?_
  refine (Session.tentative_write _).bind_atomic fun _ => ?_
  exact commit_then_answer _

theorem zipSlidesWork_atomic (carouselId : Nat) (data : ZipRequest settings) (now : Time) :
    Session.Atomic Db.tables (zipSlidesWork settings carouselId data now) := by
  unfold zipSlidesWork
  -- the archive comes first, and can be refused at any of its images
  refine (Session.tentative_ask _).bind_atomic fun members => ?_
  refine (Session.tentative_ask _).bind_atomic fun loaded => ?_
  refine (Session.tentative_write _).bind_atomic fun _ => ?_
  exact (Session.safe_commit.bind fun _ => Session.safe_ret members).atomic

theorem deleteCarouselWork_atomic (carouselId : Nat) :
    Session.Atomic Db.tables (deleteCarouselWork carouselId) := by
  unfold deleteCarouselWork
  refine (Session.tentative_ask _).bind_atomic fun loaded => ?_
  refine (Session.tentative_write _).bind_atomic fun _ => ?_
  exact Session.safe_commit.atomic

theorem CarouselCall.work_atomic (call : CarouselCall settings) :
    Session.Atomic Db.tables (call.work P) := by
  cases call with
  | create data now => exact (createCarouselWork_atomic data now).drop
  | addStories carouselId data now => exact (addStoriesWork_atomic carouselId data now).drop
  | save carouselId data now => exact (saveCarouselWork_atomic carouselId data now).drop
  | zip carouselId data now => exact (zipSlidesWork_atomic carouselId data now).drop
  | delete carouselId => exact deleteCarouselWork_atomic carouselId

/-- The three tables of the carousels are the same, row for row. -/
def SameTables (db db' : Db) : Prop :=
  db'.carousels = db.carousels ∧ db'.slides = db.slides ∧ db'.selections = db.selections

/-- **A REFUSED REQUEST CHANGES NOTHING.**  Whichever check a carousel request
fails, at whatever state of the database, the session it ran in leaves every
row of the three tables as it was, timestamps included: what had been flushed
is rolled back with it. -/
theorem refused_changes_nothing {call : CarouselCall settings} {db db' : Db} {error : HttpError}
    (h : (call.work P).run db = (.error error, db')) : SameTables db db' := by
  have htables : db'.tables = db.tables := (call.work_atomic).run h
  have hcarousels : db'.tables.carousels = db.tables.carousels := by rw [htables]
  have hslides : db'.tables.slides = db.tables.slides := by rw [htables]
  have hselections : db'.tables.selections = db.tables.selections := by rw [htables]
  exact ⟨hcarousels, hslides, hselections⟩

end Atomic

/-! ## §4. A city with a long name. -/

/-- A story of a city whose name no slide holds. -/
def longNamed : Db :=
  { twoCities with
    cities := [{ id := 1, name := longName, slug := "x".toList, state := none
                 archivedAt := none }] }

def createLongNamed : CarouselCall defaultSettings :=
  .create (selectOne drainageId drainageId_valid) (seconds 1790000000)

/-- The row was flushed, for its id is spent, and it is gone. -/
theorem refused_changes_nothing_longNamed :
    ∃ db', (createLongNamed.work feedless).run longNamed = (.error internalError, db')
      ∧ db'.nextCarousel = 2 ∧ db'.carousels = [] ∧ SameTables longNamed db' := by
  have hrefused : ((createLongNamed.work feedless).run longNamed).1 = .error internalError := by
    decide +kernel
  have hspent : ((createLongNamed.work feedless).run longNamed).2.nextCarousel = 2 := by
    decide +kernel
  generalize hrun : (createLongNamed.work feedless).run longNamed = result at hrefused hspent
  obtain ⟨answer, db'⟩ := result
  obtain rfl : answer = .error internalError := hrefused
  have hsame := refused_changes_nothing hrun
  exact ⟨db', rfl, hspent, hsame.1, hsame⟩

end Feedcast
