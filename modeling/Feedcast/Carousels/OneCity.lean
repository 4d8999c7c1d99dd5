/-
  Feedcast.Carousels.OneCity — which city the stories of a deck are from.

  A create refuses a selection that spans cities.  An add resolves its city and
  drops it, and a save asks only whether the articles exist.  So the property
  `OneCity` rests on what the requests name:

    • `carouselStep_iff` — the run rule of the gallery, for any such property,
    • `CarouselCall.run_oneCity` — a call keeps `OneCity` exactly if an accepted
      add or save names stories of the carousel's own city,
    • `oneCity_iff` — hence so does every run from an empty gallery,
    • `addAcrossCities_mixed` — a deck of two cities.
-/
import Feedcast.Api.Carousels
import Feedcast.Ingest.TickDedupe

namespace Feedcast

open Feedcast.Lib

/-! ## §1. The property. -/

/-- **A carousel belongs to one city**: every story a slide of it names is of a
source of that city. -/
def OneCity (db : Db) : Prop :=
  ∀ carousel ∈ db.carousels, ∀ row ∈ db.slides, row.carouselId = carousel.id →
    ∀ storyId ∈ row.articleId, storyCity db storyId = some carousel.cityId

instance (db : Db) : Decidable (OneCity db) := by
  unfold OneCity
  infer_instance

/-- The keys of the two tables: unique, and drawn from their sequence. -/
structure CarouselKeys (db : Db) : Prop where
  nodup : (db.carousels.map (·.id)).Nodup
  fresh : ∀ carousel ∈ db.carousels, carousel.id < db.nextCarousel
  owned : ∀ row ∈ db.slides, row.carouselId < db.nextCarousel

theorem CarouselKeys.get {db : Db} (h : CarouselKeys db) {carousel : Carousel}
    (hc : carousel ∈ db.carousels) : db.getCarousel carousel.id = some carousel :=
  getRow_of_mem _ h.nodup hc

/-- An add that `add_stories` accepts, the carousel being there. -/
structure AddAccepted (P : Platform) {settings : Settings} (db : Db) (carouselId : Nat)
    (data : CarouselRequest settings) : Prop where
  few : ((dedupe data.storyIds).length : Int) ≤ settings.carouselMaxStories
  known : matchingRows db (dedupe data.storyIds) ≠ []
  room : ((storyCount (loadDeck P settings db carouselId)
      + (freshStories (loadDeck P settings db carouselId)
          (resolveRows P settings (dedupe data.storyIds)
            (matchingRows db (dedupe data.storyIds))).stories).length : Nat) : Int)
    ≤ settings.carouselMaxStories
  writable : ∀ slide ∈ insertBeforeCta (loadDeck P settings db carouselId)
      ((freshStories (loadDeck P settings db carouselId)
          (resolveRows P settings (dedupe data.storyIds)
            (matchingRows db (dedupe data.storyIds))).stories).map (storySlide P settings)),
    slide.Writable

/-- The requests that put only stories of the carousel's own city in a deck. -/
def OwnCity (P : Platform) {settings : Settings} (db : Db) : CarouselCall settings → Prop
  | .addStories carouselId data _ =>
      ∀ carousel, db.getCarousel carouselId = some carousel →
        AddAccepted P db carouselId data →
          ∀ storyId ∈ data.storyIds, ∀ row, storyRow db storyId = some row →
            row.city.id = carousel.cityId
  | .save carouselId data _ =>
      ∀ carousel, db.getCarousel carouselId = some carousel →
        unknownStories db data.slides = [] →
          ∀ slide ∈ data.slides, ∀ storyId ∈ slide.storyId,
            storyCity db storyId = some carousel.cityId
  | _ => True

/-! ## §2. Adds. -/

section Add

variable {P : Platform} {settings : Settings} {db : Db} {carouselId : Nat}
  {data : CarouselRequest settings}

/-- `AddAccepted` is what `addDeck` checks. -/
theorem addDeck_accepted :
    (∃ edit, addDeck P settings db carouselId data = .ok edit) ↔
      AddAccepted P db carouselId data := by
  constructor
  · intro h
    obtain ⟨edit, h⟩ := h
    obtain ⟨resolved, hresolved, hfresh, hroom, hslides, -⟩ := addDeck_ok h
    obtain ⟨hfew, hknown, rfl⟩ := resolveSelection_ok.mp hresolved
    rw [hfresh] at hroom hslides
    exact ⟨hfew, hknown, hroom, asWrite_isOk.mp ⟨edit.slides, hslides⟩⟩
  · intro h
    obtain ⟨slides, hslides⟩ := asWrite_isOk.mpr h.writable
    -- the checks, in the order in which the handler makes them
    unfold addDeck
    exact ⟨_, except_bind_ok.mpr ⟨_, resolveSelection_ok.mpr ⟨h.few, h.known, rfl⟩,
      except_bind_ok.mpr ⟨(), checkRoom_ok.mpr h.room,
        except_bind_ok.mpr ⟨slides, hslides, rfl⟩⟩⟩⟩

/-- The stories a selection resolves to are the ones it names that have a row. -/
theorem mem_resolved {resolved : Resolved} {storyIds : List Str}
    (h : resolveSelection P settings db storyIds = .ok resolved) {storyId : Str} :
    storyId ∈ resolved.stories.map (·.id) ↔
      storyId ∈ storyIds ∧ ∃ row, storyRow db storyId = some row := by
  obtain ⟨-, -, rfl⟩ := resolveSelection_ok.mp h
  rw [List.mem_map]
  constructor
  · -- a story comes from a row, a row from an id that was asked for
    intro hresolves
    obtain ⟨story, hstory, rfl⟩ := hresolves
    obtain ⟨row, hrow, rfl⟩ := mem_resolveRows.mp hstory
    obtain ⟨id, hid, hget⟩ := mem_matchingRows.mp hrow
    obtain rfl : row.article.id = id := storyRow_id hget
    exact ⟨List.mem_eraseDups.mp hid, row, hget⟩
  · intro hnamed
    obtain ⟨hid, row, hget⟩ := hnamed
    refine ⟨projectStory P settings row, mem_resolveRows.mpr ⟨row, ?_, rfl⟩, storyRow_id hget⟩
    exact mem_matchingRows.mpr ⟨storyId, List.mem_eraseDups.mpr hid, hget⟩

/-- The stories of a written deck, read off what the server built. -/
theorem mem_written_storyIds {slides : List Slide} {writes : List SlideWrite}
    (h : asWrite slides = .ok writes) {storyId : Str} :
    (∃ w ∈ writes, w.storyId = some storyId) ↔ ∃ s ∈ slides, s.storyId = some storyId := by
  have hc := congrArg (List.filterMap fun c : SlideContent => c.storyId) (asWrite_content h)
  rw [List.filterMap_map, List.filterMap_map] at hc
  have hmem := congrArg (storyId ∈ ·) hc
  simpa [List.mem_filterMap, SlideWrite.content, Slide.content] using hmem

theorem mem_insertBeforeCta {deck new : List Slide} {slide : Slide} :
    slide ∈ insertBeforeCta deck new ↔ slide ∈ deck ∨ slide ∈ new := by
  rw [insertBeforeCta_eq, (insertBefore_perm _ _ _).mem_iff, List.mem_append]

/-- **An add writes the stories of the stored deck and those it names.** -/
theorem mem_addDeck_storyIds {edit : DeckEdit}
    (h : addDeck P settings db carouselId data = .ok edit) {storyId : Str} :
    (∃ w ∈ edit.slides, w.storyId = some storyId) ↔
      (∃ row ∈ deckRows db carouselId, row.articleId = some storyId)
        ∨ (storyId ∈ data.storyIds ∧ ∃ row, storyRow db storyId = some row) := by
  obtain ⟨resolved, hresolved, hfresh, -, hslides, -⟩ := addDeck_ok h
  rw [mem_written_storyIds hslides, ← mem_resolved hresolved,
      ← mem_loadDeck_storyIds P settings, List.mem_filterMap]
  simp only [mem_insertBeforeCta]
  constructor
  · intro h
    rcases h with ⟨slide, hold | hnew, hid⟩
    · exact Or.inl ⟨slide, hold, hid⟩
    · obtain ⟨story, hstory, rfl⟩ := List.mem_map.mp hnew
      rw [hfresh] at hstory
      cases hid
      exact Or.inr (List.mem_map.mpr ⟨story, List.mem_of_mem_filter hstory, rfl⟩)
  · intro h
    rcases h with ⟨slide, hold, hid⟩ | hnew
    · exact ⟨slide, Or.inl hold, hid⟩
    · obtain ⟨story, hstory, rfl⟩ := List.mem_map.mp hnew
      -- a story the deck has already is written back with it
      by_cases hin : story.id ∈ (loadDeck P settings db carouselId).filterMap (·.storyId)
      · obtain ⟨slide, hold, hid⟩ := List.mem_filterMap.mp hin
        exact ⟨slide, Or.inl hold, hid⟩
      · have hmem : story ∈ edit.fresh := by
          rw [hfresh]
          exact List.mem_filter.mpr ⟨hstory, by simpa using hin⟩
        exact ⟨_, Or.inr (List.mem_map.mpr ⟨story, hmem, rfl⟩), rfl⟩

end Add

/-! ## §3. Writes. -/

/-- What a call that writes no new carousel leaves of the carousels. -/
def SameCities (db db' : Db) : Prop :=
  ∀ carousel' ∈ db'.carousels,
    ∃ carousel ∈ db.carousels, carousel.id = carousel'.id ∧ carousel.cityId = carousel'.cityId

/-- Fewer rows of the same carousels keep the property. -/
theorem OneCity.shrink {db db' : Db} (h : OneCity db) (hcars : SameCities db db')
    (hrows : db'.slides ⊆ db.slides) (hcity : ∀ id, storyCity db' id = storyCity db id) :
    OneCity db' := by
  intro carousel' hc' row hrow hid storyId hs
  obtain ⟨carousel, hc, hcid, hcc⟩ := hcars carousel' hc'
  rw [hcity, ← hcc]
  exact h carousel hc row (hrows hrow) (by rw [hid, hcid]) storyId hs

theorem stampEdited_sameCities (db : Db) (carouselId : Nat) (now : Time) :
    SameCities db (db.stampEdited carouselId now) := by
  intro carousel' hc'
  obtain ⟨carousel, hc, edited, rfl⟩ := mem_stampEdited hc'
  exact ⟨carousel, hc, rfl, rfl⟩

theorem mem_slideRows_storyIds (carouselId next : Nat) {slides : List SlideWrite} {storyId : Str} :
    (∃ row ∈ slideRows carouselId next slides, row.articleId = some storyId) ↔
      ∃ w ∈ slides, w.storyId = some storyId := by
  have hc := congrArg (List.filterMap fun c : SlideContent => c.storyId)
    (slideRows_content carouselId next slides)
  rw [List.filterMap_map, List.filterMap_map] at hc
  have hmem := congrArg (storyId ∈ ·) hc
  simpa [List.mem_filterMap, SlideWrite.content, CarouselSlide.content] using hmem

/-- **The one rule for a replaced deck**: the property is kept exactly if the
stories written are of the carousel's city. -/
theorem saveDeck_oneCity {db : Db} {carousel : Carousel} (hkeys : CarouselKeys db)
    (h : OneCity db) (hc : carousel ∈ db.carousels) (slides : List SlideWrite) (now : Time) :
    OneCity (saveDeck db { carousel := carousel, slides := deckRows db carousel.id } slides now) ↔
      ∀ storyId, (∃ w ∈ slides, w.storyId = some storyId) →
        storyCity db storyId = some carousel.cityId := by
  have hcity : ∀ id, storyCity
      (saveDeck db { carousel := carousel, slides := deckRows db carousel.id } slides now) id
        = storyCity db id := storyCity_congr rfl rfl
  constructor
  · -- what is written is stored under the carousel
    intro ht storyId hw
    obtain ⟨row, hrow, hid⟩ :=
      (mem_slideRows_storyIds carousel.id db.nextSlide).mpr hw
    have hmem : { carousel with lastEditedAt := some now }
        ∈ (saveDeck db { carousel := carousel, slides := deckRows db carousel.id } slides
            now).carousels := List.mem_map.mpr ⟨carousel, hc, by simp⟩
    rw [← hcity]
    exact ht _ hmem row (mem_saveDeck_slides.mpr (Or.inr hrow)) (slideRows_carousel hrow) storyId
      hid
  · intro hw carousel' hc' row hrow hid storyId hs
    obtain ⟨c, hcmem, hcid, hcc⟩ := stampEdited_sameCities _ carousel.id now carousel' hc'
    rw [hcity, ← hcc]
    rcases mem_saveDeck_slides.mp hrow with ⟨hold, -⟩ | hnew
    · exact h c hcmem row hold (by rw [hid, hcid]) storyId hs
    · -- ids are unique, so the row is the carousel's
      have hsame : c = carousel :=
        List.inj_on_of_nodup_map hkeys.nodup hcmem hc
          (hcid.trans (hid.symm.trans (slideRows_carousel hnew)))
      rw [hsame]
      exact hw storyId ((mem_slideRows_storyIds _ _).mp ⟨row, hnew, hs⟩)

/-! ## §4. The keys. -/

theorem insertCarousel_keys {db : Db} (h : CarouselKeys db) (city : City) (now : Time) :
    CarouselKeys (db.insertCarousel (newCarousel db city now)) where
  nodup := keys_nodup_insert _ h.nodup fun carousel hc => Nat.ne_of_lt (h.fresh carousel hc)
  fresh := @keys_lt_insert _ Carousel.id _ (newCarousel db city now) h.fresh
  owned row hrow := Nat.lt_succ_of_lt (h.owned row hrow)

theorem saveDeck_keys {db : Db} {loaded : LoadedCarousel} {slides : List SlideWrite} {now : Time}
    (h : CarouselKeys db) (hc : loaded.carousel ∈ db.carousels) :
    CarouselKeys (saveDeck db loaded slides now) where
  nodup := by
    -- `stampEdited` changes a column, and no key
    have hids : (saveDeck db loaded slides now).carousels.map (·.id)
        = db.carousels.map (·.id) := by
      show (db.carousels.map _).map _ = _
      rw [List.map_map]
      refine List.map_congr_left ?_
      intro carousel _
      by_cases hid : carousel.id = loaded.carousel.id <;> simp [hid]
    rw [hids]
    exact h.nodup
  fresh carousel' hc' := by
    obtain ⟨carousel, hmem, hid, -⟩ := stampEdited_sameCities _ _ now carousel' hc'
    rw [← hid]
    exact h.fresh carousel hmem
  owned row hrow := by
    rcases mem_saveDeck_slides.mp hrow with ⟨hold, -⟩ | hnew
    · exact h.owned row hold
    · rw [slideRows_carousel hnew]
      exact h.fresh _ hc

theorem recordSelections_keys {db : Db} (h : CarouselKeys db) (carouselId : Nat)
    (stories : List StoryRead) (sort : Option StorySort) :
    CarouselKeys (recordSelections db carouselId stories sort) :=
  ⟨h.nodup, h.fresh, h.owned⟩

theorem mem_insertCarousel (db : Db) (carousel : Carousel) :
    carousel ∈ (db.insertCarousel carousel).carousels :=
  List.mem_append_right _ (List.mem_singleton_self _)

/-- A carousel just inserted has no slides. -/
theorem deckRows_insertCarousel {db : Db} (h : CarouselKeys db) (city : City) (now : Time) :
    deckRows (db.insertCarousel (newCarousel db city now)) (newCarousel db city now).id = [] := by
  refine List.filter_eq_nil_iff.mpr ?_
  intro row hrow
  rw [decide_eq_true_iff]
  exact Nat.ne_of_lt (h.owned row hrow)

theorem CarouselCall.run_keys {P : Platform} {settings : Settings} {db db' : Db}
    {call : CarouselCall settings} (h : CarouselKeys db) (hrun : call.run P db = .ok db') :
    CarouselKeys db' := by
  cases call with
  | create data now =>
      obtain ⟨⟨_, r⟩, hcreate, rfl⟩ := except_map_ok.mp hrun
      obtain ⟨resolved, city, slides, -, -, -, rfl⟩ := createCarousel_ok hcreate
      exact recordSelections_keys
        (saveDeck_keys (insertCarousel_keys h city now) (mem_insertCarousel _ _)) _ _ _
  | addStories carouselId data now =>
      obtain ⟨⟨_, r⟩, hadd, rfl⟩ := except_map_ok.mp hrun
      obtain ⟨carousel, edit, hc, -, rfl⟩ := addStories_ok hadd
      exact recordSelections_keys (saveDeck_keys h (getCarousel_id hc).1) _ _ _
  | save carouselId data now =>
      obtain ⟨⟨_, r⟩, hsave, rfl⟩ := except_map_ok.mp hrun
      obtain ⟨carousel, hc, -, rfl⟩ := saveCarousel_ok hsave
      exact saveDeck_keys h (getCarousel_id hc).1
  | zip carouselId data now =>
      obtain ⟨⟨_, members⟩, hzip, rfl⟩ := except_map_ok.mp hrun
      obtain ⟨carousel, -, hc, rfl⟩ := zipSlides_ok hzip
      refine ⟨?_, ?_, h.owned⟩
      · show ((setRow Carousel.id _ db.carousels).map Carousel.id).Nodup
        rw [setRow_keys]
        exact h.nodup
      · intro carousel' hc'
        rcases (mem_setRow Carousel.id).mp hc' with ⟨rfl, -⟩ | ⟨hold, -⟩
        · exact h.fresh carousel (getCarousel_id hc).1
        · exact h.fresh carousel' hold
  | delete carouselId =>
      obtain ⟨carousel, hc, rfl⟩ := deleteCarousel_ok hrun
      -- the sequence is not rewound, so no id comes back
      refine ⟨h.nodup.sublist (List.filter_sublist.map _), ?_, ?_⟩
      · intro carousel' hc'
        exact h.fresh carousel' (List.mem_of_mem_filter hc')
      · intro row hrow
        exact h.owned row (List.mem_of_mem_filter hrow)

/-! ## §5. Steps. -/

section Step

variable {P : Platform} {settings : Settings} {db db' : Db}

/-- A create puts the stories of one city in a deck of that city. -/
theorem createCarousel_oneCity {data : CarouselRequest settings} {now : Time}
    {r : CarouselResponse} (hkeys : CarouselKeys db) (h : OneCity db)
    (hcreate : createCarousel P settings db data now = .ok (db', r)) : OneCity db' := by
  obtain ⟨resolved, city, slides, hresolved, hcity, hslides, rfl⟩ := createCarousel_ok hcreate
  -- the new carousel has no rows, so inserting it alone keeps the property
  have hinsert : OneCity (db.insertCarousel (newCarousel db city now)) := by
    intro carousel hc row hrow hid storyId hs
    rcases List.mem_append.mp hc with hold | hnew
    · exact h carousel hold row hrow hid storyId hs
    · rw [List.mem_singleton.mp hnew] at hid
      exact absurd hid (Nat.ne_of_lt (hkeys.owned row hrow))
  have hsave := (saveDeck_oneCity (insertCarousel_keys hkeys city now) hinsert
    (mem_insertCarousel _ _) slides now).mpr
  rw [deckRows_insertCarousel hkeys] at hsave
  refine hsave ?_
  intro storyId hw
  show storyCity db storyId = some city.id
  obtain ⟨slide, hslide, hsid⟩ := (mem_written_storyIds hslides).mp hw
  -- the brackets name no story
  have hstory : storyId ∈ resolved.stories.map (·.id) := by
    rcases List.mem_append.mp hslide with hslide | hslide
    · rcases List.mem_cons.mp hslide with rfl | hslide
      · cases hsid
      · obtain ⟨story, hmem, rfl⟩ := List.mem_map.mp hslide
        cases hsid
        exact List.mem_map.mpr ⟨story, hmem, rfl⟩
    · rw [List.mem_singleton.mp hslide] at hsid
      cases hsid
  obtain ⟨-, -, hres⟩ := resolveSelection_ok.mp hresolved
  rw [hres] at hcity hstory
  obtain ⟨story, hmem, hstoryid⟩ := List.mem_map.mp hstory
  obtain ⟨row, hrow, rfl⟩ := mem_resolveRows.mp hmem
  obtain ⟨id, -, hget⟩ := mem_matchingRows.mp hrow
  obtain rfl : storyId = id := hstoryid.symm.trans (storyRow_id hget)
  rw [storyRow_city hget, singleCity_some hcity row hrow]

theorem addStories_oneCity {carouselId : Nat} {data : CarouselRequest settings} {now : Time}
    {r : CarouselResponse} (hkeys : CarouselKeys db) (h : OneCity db)
    (hadd : addStories P settings db carouselId data now = .ok (db', r)) :
    OneCity db' ↔ OwnCity P db (.addStories carouselId data now) := by
  obtain ⟨carousel, edit, hc, hedit, rfl⟩ := addStories_ok hadd
  obtain ⟨hmem, rfl⟩ := getCarousel_id hc
  have hsave := saveDeck_oneCity hkeys h hmem edit.slides now
  show OneCity (saveDeck _ _ _ _) ↔ _
  rw [hsave]
  simp only [mem_addDeck_storyIds hedit]
  -- the slides that stay are of the city already; only what is added matters
  constructor
  · intro hw carousel' hc' _ storyId hid row hrow
    rw [hc] at hc'
    cases hc'
    have hcity := hw storyId (Or.inr ⟨hid, row, hrow⟩)
    rw [storyRow_city hrow] at hcity
    exact Option.some.inj hcity
  · intro hown storyId h
    rcases h with ⟨row, hrow, hs⟩ | ⟨hid, row, hrow⟩
    · -- of the deck as it was stored
      obtain ⟨hrow, hrid⟩ := List.mem_filter.mp hrow
      exact h carousel hmem row hrow (by simpa using hrid) storyId hs
    · rw [storyRow_city hrow,
          hown carousel hc (addDeck_accepted.mp ⟨edit, hedit⟩) storyId hid row hrow]

theorem saveCarousel_oneCity {carouselId : Nat} {data : DeckWrite settings} {now : Time}
    {r : CarouselResponse} (hkeys : CarouselKeys db) (h : OneCity db)
    (hsave : saveCarousel P settings db carouselId data now = .ok (db', r)) :
    OneCity db' ↔ OwnCity P db (.save carouselId data now) := by
  obtain ⟨carousel, hc, hknown, rfl⟩ := saveCarousel_ok hsave
  obtain ⟨hmem, rfl⟩ := getCarousel_id hc
  rw [saveDeck_oneCity hkeys h hmem data.slides now]
  -- the condition speaks of the request, the lemma of the rows it becomes
  constructor
  · intro hw carousel' hc' _ slide hslide storyId hs
    rw [hc] at hc'
    cases hc'
    exact hw storyId ⟨slide, hslide, hs⟩
  · intro hown storyId hnamed
    obtain ⟨slide, hslide, hs⟩ := hnamed
    exact hown carousel hc hknown slide hslide storyId hs

/-- An add that meets the checks goes through. -/
theorem addStories_runs {carouselId : Nat} {data : CarouselRequest settings} (now : Time)
    {carousel : Carousel} (hc : db.getCarousel carouselId = some carousel)
    (haccepted : AddAccepted P db carouselId data) :
    ∃ db', (CarouselCall.addStories carouselId data now).run P db = .ok db' := by
  obtain ⟨edit, hedit⟩ := addDeck_accepted.mpr haccepted
  have hok : addStories P settings db carouselId data now = .ok _ :=
    except_bind_ok.mpr ⟨_, loadCarousel_ok.mpr ⟨carousel, hc, rfl⟩,
      except_bind_ok.mpr ⟨edit, hedit, rfl⟩⟩
  exact ⟨_, except_map_ok.mpr ⟨_, hok, rfl⟩⟩

/-- A save whose stories are known goes through. -/
theorem saveCarousel_runs {carouselId : Nat} {data : DeckWrite settings} (now : Time)
    {carousel : Carousel} (hc : db.getCarousel carouselId = some carousel)
    (hknown : unknownStories db data.slides = []) :
    ∃ db', (CarouselCall.save carouselId data now).run P db = .ok db' := by
  have hok : saveCarousel P settings db carouselId data now = .ok _ :=
    except_bind_ok.mpr ⟨_, loadCarousel_ok.mpr ⟨carousel, hc, rfl⟩,
      except_bind_ok.mpr ⟨(), checkKnown_ok.mpr hknown, rfl⟩⟩
  exact ⟨_, except_map_ok.mpr ⟨_, hok, rfl⟩⟩

/-- A refused add names no other city, for it names none. -/
theorem ownCity_of_refused {call : CarouselCall settings}
    (hrefused : ∀ db', call.run P db ≠ .ok db') : OwnCity P db call := by
  cases call with
  | create data now => trivial
  -- had the handler accepted it, it would have run
  | addStories carouselId data now =>
      intro carousel hc haccepted
      obtain ⟨db', hrun⟩ := addStories_runs now hc haccepted
      exact absurd hrun (hrefused db')
  | save carouselId data now =>
      intro carousel hc hknown
      obtain ⟨db', hrun⟩ := @saveCarousel_runs P settings db carouselId data now carousel hc hknown
      exact absurd hrun (hrefused db')
  | zip carouselId data now => trivial
  | delete carouselId => trivial

/-- **A call keeps the property exactly if it names the carousel's own city.** -/
theorem CarouselCall.run_oneCity {call : CarouselCall settings} (hkeys : CarouselKeys db)
    (h : OneCity db) (hrun : call.run P db = .ok db') : OneCity db' ↔ OwnCity P db call := by
  cases call with
  | create data now =>
      obtain ⟨⟨_, r⟩, hcreate, rfl⟩ := except_map_ok.mp hrun
      exact iff_of_true (createCarousel_oneCity hkeys h hcreate) trivial
  | addStories carouselId data now =>
      obtain ⟨⟨_, r⟩, hadd, rfl⟩ := except_map_ok.mp hrun
      exact addStories_oneCity hkeys h hadd
  | save carouselId data now =>
      obtain ⟨⟨_, r⟩, hsave, rfl⟩ := except_map_ok.mp hrun
      exact saveCarousel_oneCity hkeys h hsave
  -- a download stamps the carousel, and a delete takes slides away
  | zip carouselId data now =>
      obtain ⟨⟨_, members⟩, hzip, rfl⟩ := except_map_ok.mp hrun
      obtain ⟨carousel, -, hc, rfl⟩ := zipSlides_ok hzip
      refine iff_of_true (h.shrink ?_ (List.Subset.refl _) fun _ => rfl) trivial
      intro carousel' hc'
      rcases (mem_setRow Carousel.id).mp hc' with ⟨rfl, -⟩ | ⟨hold, -⟩
      · exact ⟨carousel, (getCarousel_id hc).1, rfl, rfl⟩
      · exact ⟨carousel', hold, rfl, rfl⟩
  | delete carouselId =>
      obtain ⟨carousel, hc, rfl⟩ := deleteCarousel_ok hrun
      refine iff_of_true (h.shrink ?_ (List.filter_subset_self _) fun _ => rfl) trivial
      intro carousel' hc'
      exact ⟨carousel', List.mem_of_mem_filter hc', rfl, rfl⟩

end Step

/-! ## §6. Runs. -/

/-- **The run rule of the gallery.**  When an accepted call keeps a property
exactly if it meets a condition that every refused call meets, so does a run
from an empty gallery. -/
theorem carouselStep_iff {P : Platform} {settings : Settings} {I : Db → Prop}
    {C : Db → CarouselCall settings → Prop}
    (hkeep : ∀ db call db', CarouselKeys db → I db → call.run P db = .ok db' → (I db' ↔ C db call))
    (hrefused : ∀ db call, (∀ db', call.run P db ≠ .ok db') → C db call)
    {db : Db} (hcarousels : db.carousels = []) (hslides : db.slides = []) (hI : I db)
    (calls : List (CarouselCall settings)) :
    Throughout (carouselStep P) I db calls ↔ Along (carouselStep P) C db calls := by
  have hkeys : CarouselKeys db := by
    refine ⟨?_, ?_, ?_⟩ <;> simp [hcarousels, hslides]
  -- unique keys hold of every state, whatever becomes of `I`
  refine throughout_iff_along (J := CarouselKeys) ?_ ?_ ?_ hkeys hI
  · intro s call t hs hstep
    unfold carouselStep at hstep
    split at hstep
    · next hrun =>
        cases hstep
        exact CarouselCall.run_keys hs hrun
    · cases hstep
      exact hs
  · intro s call t hs hIs hstep
    unfold carouselStep at hstep
    split at hstep
    · next hrun =>
        cases hstep
        exact hkeep s call t hs hIs hrun
    · next e hrun =>
        cases hstep
        refine iff_of_true hIs (hrefused s call ?_)
        intro db' hok
        rw [hrun] at hok
        cases hok
  · intro s call hnone
    unfold carouselStep at hnone
    split at hnone <;> cases hnone

/-- **A DECK STAYS IN ITS CITY EXACTLY IF ITS REQUESTS DO.** -/
theorem oneCity_iff (P : Platform) (settings : Settings) (db : Db) (hcarousels : db.carousels = [])
    (hslides : db.slides = []) (calls : List (CarouselCall settings)) :
    Throughout (carouselStep P) OneCity db calls ↔ Along (carouselStep P) (OwnCity P) db calls := by
  have hone : OneCity db := by
    intro carousel hc
    rw [hcarousels] at hc
    cases hc
  exact carouselStep_iff (fun _ _ _ hkeys h hrun => CarouselCall.run_oneCity hkeys h hrun)
    (fun _ _ hrefused => ownCity_of_refused hrefused) hcarousels hslides hone calls

/-! ## §7. Two cities. -/

/-- An unrated article of a source. -/
def articleOf (sourceId : Nat) (id title : Str) : Article where
  id := id
  sourceId := sourceId
  url := "https://example.test/story".toList
  canonicalUrl := "https://example.test/story".toList
  title := title
  summary := none
  publishedAt := some (seconds 1790000000)
  language := "en".toList
  feedPosition := none
  images := []
  contentHash := []
  city := none
  cityId := none
  sensitivityFlags := []
  raw := { title := title, link := "https://example.test/story".toList, summary := none
           categoryRaw := none }
  fetchedAt := seconds 1790000000

def drainageId : Str := List.replicate 64 'd'

def metroId : Str := List.replicate 64 'm'

/-- One source and one story in each of two cities. -/
def twoCities : Db where
  cities := [{ id := 1, name := "Nagpur".toList, slug := "nagpur".toList, state := none
               archivedAt := none },
    { id := 2, name := "Pune".toList, slug := "pune".toList, state := none, archivedAt := none }]
  sources := [testTimes.row 1 1, testTimes.row 2 2]
  articles := [articleOf 1 drainageId "Drainage works begin".toList,
    articleOf 2 metroId "Metro opens".toList]

/-- A deck built on a Nagpur story, and a Pune story added to it. -/
def addAcrossCities : List (CarouselCall defaultSettings) :=
  [.create { storyIds := [drainageId] } (seconds 1790000000),
    .addStories 1 { storyIds := [metroId] } (seconds 1790000060)]

/-- The add goes through: the Nagpur deck names a Pune story. -/
theorem addAcrossCities_mixed :
    ∃ db, Run (carouselStep feedless) twoCities addAcrossCities db ∧ ¬ OneCity db := by
  have hok : ∃ db ∈ exec (carouselStep feedless) twoCities addAcrossCities, ¬ OneCity db := by
    decide +kernel
  obtain ⟨db, hrun, hmixed⟩ := hok
  exact ⟨db, run_iff_exec.mpr hrun, hmixed⟩

theorem oneCity_iff_twoCities :
    Throughout (carouselStep feedless) OneCity twoCities addAcrossCities ↔
      Along (carouselStep feedless) (OwnCity feedless) twoCities addAcrossCities :=
  oneCity_iff feedless defaultSettings twoCities rfl rfl addAcrossCities

end Feedcast
