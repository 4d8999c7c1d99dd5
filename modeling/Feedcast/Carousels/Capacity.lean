/-
  Feedcast.Carousels.Capacity — how much a deck holds.

  Three writers bound a deck, each in its own way: a create the distinct ids
  of its request, an add the story slides, a save the slides of its payload.
  An add never counts the other slides, and a save neither the story slides nor
  a story named twice:

    • `DeckFits` — the bounds, on what the editor sees of a deck,
    • `saveDeck_fits` — the one rule for a replaced deck,
    • `CarouselCall.run_fits` — a call keeps the bounds exactly if its request does,
    • `capacity_iff` — hence so does every run from an empty gallery,
    • `addToBrackets_overfull` — a deck no save takes back.
-/
import Feedcast.Carousels.OneCity

namespace Feedcast

open Feedcast.Lib

/-! ## §1. The property. -/

/-- **A deck within its bounds.** -/
structure DeckFits (settings : Settings) (deck : List SlideContent) : Prop where
  stories : ((deck.filter fun slide => slide.kind = .story).length : Int)
    ≤ settings.carouselMaxStories
  slides : (deck.length : Int) ≤ settings.maxSlides
  distinct : (deck.filterMap (·.storyId)).Nodup

instance (settings : Settings) (deck : List SlideContent) : Decidable (DeckFits settings deck) :=
  decidable_of_iff
    ((((deck.filter fun slide => slide.kind = .story).length : Int)
        ≤ settings.carouselMaxStories)
      ∧ (deck.length : Int) ≤ settings.maxSlides ∧ (deck.filterMap (·.storyId)).Nodup)
    ⟨fun h => ⟨h.1, h.2.1, h.2.2⟩, fun h => ⟨h.stories, h.slides, h.distinct⟩⟩

/-- What the editor sees of a stored deck, in table order. -/
def storedDeck (db : Db) (carouselId : Nat) : List SlideContent :=
  (deckRows db carouselId).map (·.content)

/-- **Every deck is within its bounds.** -/
def Capacity (settings : Settings) (db : Db) : Prop :=
  ∀ carousel ∈ db.carousels, DeckFits settings (storedDeck db carousel.id)

instance (settings : Settings) (db : Db) : Decidable (Capacity settings db) := by
  unfold Capacity
  infer_instance

/-- The requests that leave a deck within its bounds: an accepted add has room
for its new stories among all the slides, an accepted save has no more story
slides than the cap and names no story twice. -/
def FitsDeck (P : Platform) {settings : Settings} (db : Db) : CarouselCall settings → Prop
  | .addStories carouselId data _ =>
      (db.getCarousel carouselId).isSome → AddAccepted P db carouselId data →
        (((deckRows db carouselId).length + (newStories db carouselId data.storyIds).length : Nat)
          : Int) ≤ settings.maxSlides
  | .save carouselId data _ =>
      (db.getCarousel carouselId).isSome → unknownStories db data.slides = [] →
        ((data.slides.filter fun slide => slide.kind = .story).length : Int)
            ≤ settings.carouselMaxStories
          ∧ (data.slides.filterMap (·.storyId)).Nodup
  | _ => True

/-! ## §2. Decks. -/

theorem DeckFits.perm {settings : Settings} {deck deck' : List SlideContent}
    (h : DeckFits settings deck) (hperm : deck.Perm deck') : DeckFits settings deck' where
  stories := (hperm.filter _).length_eq ▸ h.stories
  slides := hperm.length_eq ▸ h.slides
  distinct := (hperm.filterMap _).nodup_iff.mp h.distinct

/-- A deck that lost slides is still within its bounds. -/
theorem DeckFits.sublist {settings : Settings} {deck deck' : List SlideContent}
    (h : DeckFits settings deck) (hsub : deck'.Sublist deck) : DeckFits settings deck' where
  stories := le_trans (Int.ofNat_le.mpr (hsub.filter _).length_le) h.stories
  slides := le_trans (Int.ofNat_le.mpr hsub.length_le) h.slides
  distinct := h.distinct.sublist (hsub.filterMap _)

/-- The slides of new stories, appended to a deck that fits. -/
theorem deckFits_append {settings : Settings} {deck new : List SlideContent}
    (h : DeckFits settings deck) (hkind : ∀ slide ∈ new, slide.kind = .story)
    (hroom : (((deck.filter fun slide => slide.kind = .story).length + new.length : Nat) : Int)
      ≤ settings.carouselMaxStories)
    (hdistinct : (new.filterMap (·.storyId)).Nodup)
    (hfresh : ∀ id ∈ new.filterMap (·.storyId), id ∉ deck.filterMap (·.storyId)) :
    DeckFits settings (deck ++ new) ↔ ((deck.length + new.length : Nat) : Int)
      ≤ settings.maxSlides := by
  constructor
  · intro hfits
    rw [← List.length_append]
    exact hfits.slides
  · intro hlength
    -- the slides that are added are all stories
    have hall : new.filter (fun slide => slide.kind = .story) = new :=
      List.filter_eq_self.mpr fun slide hslide => decide_eq_true (hkind slide hslide)
    refine ⟨?_, ?_, ?_⟩
    · rw [List.filter_append, hall, List.length_append]
      exact hroom
    · rw [List.length_append]
      exact hlength
    · rw [List.filterMap_append]
      refine List.nodup_append.mpr ⟨h.distinct, hdistinct, ?_⟩
      intro id hid id' hid' heq
      exact hfresh id' hid' (heq ▸ hid)

/-! ## §3. A replaced deck. -/

/-- A save leaves of its own carousel just the slides it wrote. -/
theorem storedDeck_saveDeck_self {db : Db} {carousel : Carousel} {slides : List SlideWrite}
    {now : Time} :
    storedDeck (saveDeck db { carousel := carousel, slides := deckRows db carousel.id } slides now)
        carousel.id = slides.map (·.content) := by
  unfold storedDeck
  rw [deckRows_saveDeck_self, slideRows_content]

/-- A save takes slides of no other carousel's deck, and adds none. -/
theorem storedDeck_saveDeck_other {db : Db} {loaded : LoadedCarousel} {slides : List SlideWrite}
    {now : Time} {carouselId : Nat} (hne : carouselId ≠ loaded.carousel.id) :
    (storedDeck (saveDeck db loaded slides now) carouselId).Sublist (storedDeck db carouselId) := by
  refine List.Sublist.map _ ?_
  show (((db.slides.filter _) ++ slideRows loaded.carousel.id db.nextSlide slides).filter
    _).Sublist _
  rw [List.filter_append]
  have hnew : (slideRows loaded.carousel.id db.nextSlide slides).filter
      (fun row => row.carouselId = carouselId) = [] := by
    refine List.filter_eq_nil_iff.mpr ?_
    intro row hrow
    rw [decide_eq_true_iff, slideRows_carousel hrow]
    exact hne.symm
  rw [hnew, List.append_nil]
  exact List.filter_sublist.filter _

/-- **The one rule for a replaced deck**: the bounds are kept exactly if the
slides written are within them. -/
theorem saveDeck_fits {settings : Settings} {db : Db} {carousel : Carousel}
    (h : ∀ other ∈ db.carousels, other.id ≠ carousel.id →
      DeckFits settings (storedDeck db other.id))
    (hc : carousel ∈ db.carousels) (slides : List SlideWrite) (now : Time) :
    Capacity settings
        (saveDeck db { carousel := carousel, slides := deckRows db carousel.id } slides now) ↔
      DeckFits settings (slides.map (·.content)) := by
  constructor
  · intro ht
    have hmem : { carousel with lastEditedAt := some now }
        ∈ (saveDeck db { carousel := carousel, slides := deckRows db carousel.id } slides
            now).carousels := List.mem_map.mpr ⟨carousel, hc, by simp⟩
    have hfits := ht _ hmem
    rw [storedDeck_saveDeck_self] at hfits
    exact hfits
  · intro hfits carousel' hc'
    obtain ⟨other, hmem, hid, -⟩ := stampEdited_sameCities _ carousel.id now carousel' hc'
    rw [← hid]
    -- only this deck was replaced
    by_cases hself : other.id = carousel.id
    · rw [hself, storedDeck_saveDeck_self]
      exact hfits
    · exact (h other hmem hself).sublist (storedDeck_saveDeck_other hself)

/-! ## §4. Decks the server builds. -/

section Build

variable {P : Platform} {settings : Settings} {db db' : Db} {carouselId : Nat}

/-- A deck as it is read back has the slides of its rows. -/
theorem loadDeck_perm :
    ((loadDeck P settings db carouselId).map (·.content)).Perm (storedDeck db carouselId) := by
  unfold loadDeck storedDeck
  rw [List.map_map]
  exact (List.perm_insertionSort _ _).map _

theorem insertBeforeCta_perm (deck new : List Slide) :
    (insertBeforeCta deck new).Perm (deck ++ new) := by
  rw [insertBeforeCta_eq]
  exact insertBefore_perm _ _ _

/-- The slides of stories, as the editor sees them. -/
theorem storySlide_kind (stories : List StoryRead) :
    ∀ slide ∈ (stories.map (storySlide P settings)).map (·.content), slide.kind = .story := by
  intro slide hslide
  obtain ⟨built, hbuilt, rfl⟩ := List.mem_map.mp hslide
  obtain ⟨story, -, rfl⟩ := List.mem_map.mp hbuilt
  rfl

theorem storySlide_ids (stories : List StoryRead) :
    ((stories.map (storySlide P settings)).map (·.content)).filterMap (·.storyId)
      = stories.map (·.id) := by
  rw [List.map_map, List.filterMap_map]
  induction stories with
  | nil => rfl
  | cons story stories ih =>
      rw [List.map_cons, ← ih]
      rfl

theorem storyCount_loadDeck :
    storyCount (loadDeck P settings db carouselId)
      = ((storedDeck db carouselId).filter fun slide => slide.kind = .story).length := by
  have hperm := (@loadDeck_perm P settings db carouselId).filter fun slide => slide.kind = .story
  rw [← hperm.length_eq, List.filter_map, List.length_map]
  rfl

/-- The brackets of a deck, as the editor sees them. -/
def bracketContents (city : City) (stories : List StoryRead) (settings : Settings) (now : Time) :
    List SlideContent :=
  let (intro, cta) := bracketSlides (some city.name) (dateLabel stories settings now)
  [intro.content, cta.content]

/-- **A deck built on few enough stories, none of them twice, fits.** -/
theorem buildDeck_fits (city : City) {stories : List StoryRead} (now : Time)
    (hfew : (stories.length : Int) ≤ settings.carouselMaxStories)
    (hdistinct : (stories.map (·.id)).Nodup) :
    DeckFits settings ((buildDeck P settings city stories now).map (·.content)) := by
  have hcap : (0 : Int) ≤ settings.carouselMaxStories :=
    le_trans (Int.natCast_nonneg _) hfew
  -- the brackets first: a permutation has the same counts
  have hdeck : ((buildDeck P settings city stories now).map (·.content)).Perm
      (bracketContents city stories settings now
        ++ (stories.map (storySlide P settings)).map (·.content)) := by
    show (_ :: (stories.map (storySlide P settings) ++ [_]).map Slide.content).Perm
      (_ :: ([_] ++ _))
    rw [List.map_append]
    exact List.perm_append_comm.cons _
  have hbrackets : DeckFits settings (bracketContents city stories settings now) := by
    refine ⟨hcap, ?_, List.nodup_nil⟩
    show (2 : Int) ≤ settings.carouselMaxStories + 2
    omega
  have hlength : ((stories.map (storySlide P settings)).map (·.content)).length
      = stories.length := by rw [List.length_map, List.length_map]
  refine DeckFits.perm ?_ hdeck.symm
  refine (deckFits_append hbrackets (storySlide_kind stories) ?_ ?_ ?_).mpr ?_
  · rw [hlength]
    show ((0 + stories.length : Nat) : Int) ≤ _
    rw [Nat.zero_add]
    exact hfew
  · rw [storySlide_ids]
    exact hdistinct
  · -- the brackets name no story
    intro id _ hid
    cases hid
  · rw [hlength]
    show ((2 + stories.length : Nat) : Int) ≤ settings.carouselMaxStories + 2
    omega

end Build

/-! ## §5. Steps. -/

section Step

variable {P : Platform} {settings : Settings} {db db' : Db}

theorem createCarousel_fits {data : CarouselRequest settings} {now : Time} {r : CarouselResponse}
    (hkeys : CarouselKeys db) (h : Capacity settings db)
    (hcreate : createCarousel P settings db data now = .ok (db', r)) : Capacity settings db' := by
  obtain ⟨resolved, city, slides, hresolved, -, hslides, rfl⟩ := createCarousel_ok hcreate
  obtain ⟨hfew, -, rfl⟩ := resolveSelection_ok.mp hresolved
  have hids := resolveRows_ids P settings db (dedupe data.storyIds)
  have hcount := hids.length_eq
  rw [List.length_map] at hcount
  -- resolving loses ids and repeats none
  have hstories : (((resolveRows P settings (dedupe data.storyIds)
      (matchingRows db (dedupe data.storyIds))).stories.length : Nat) : Int)
        ≤ settings.carouselMaxStories := by
    rw [hcount]
    exact le_trans (Int.ofNat_le.mpr (List.length_filter_le _ _)) hfew
  have hfits := buildDeck_fits (P := P) city now hstories
    (hids.nodup_iff.mpr ((dedupe_nodup data.storyIds).filter _))
  rw [← asWrite_content hslides] at hfits
  show Capacity settings (saveDeck _ _ _ _)
  rw [← deckRows_insertCarousel hkeys city now]
  refine (saveDeck_fits ?_ (mem_insertCarousel _ _) slides now).mpr hfits
  intro other hother hne
  rcases List.mem_append.mp hother with hold | hnew
  · exact h other hold
  · exact absurd (congrArg Carousel.id (List.mem_singleton.mp hnew)) hne

/-- **An add keeps the bounds exactly if its stories have room among all the
slides**: that they have room among the story slides is checked. -/
theorem addStories_fits {carouselId : Nat} {data : CarouselRequest settings} {now : Time}
    {r : CarouselResponse} (h : Capacity settings db)
    (hadd : addStories P settings db carouselId data now = .ok (db', r)) :
    Capacity settings db' ↔ FitsDeck P db (.addStories carouselId data now) := by
  obtain ⟨carousel, edit, hc, hedit, rfl⟩ := addStories_ok hadd
  obtain ⟨hmem, rfl⟩ := getCarousel_id hc
  obtain ⟨resolved, hresolved, hfresh, hroom, hslides, -⟩ := addDeck_ok hedit
  obtain ⟨-, -, rfl⟩ := resolveSelection_ok.mp hresolved
  have hids := freshStories_ids P settings db carousel.id data.storyIds
  rw [← hfresh] at hids
  have hcount := hids.length_eq
  rw [List.length_map] at hcount
  -- the deck written is the stored one and the new stories, in some order
  have hperm : (edit.slides.map (·.content)).Perm
      (storedDeck db carousel.id
        ++ (edit.fresh.map (storySlide P settings)).map (·.content)) := by
    rw [asWrite_content hslides]
    refine ((insertBeforeCta_perm _ _).map _).trans ?_
    rw [List.map_append]
    exact loadDeck_perm.append_right _
  have hadded : DeckFits settings (storedDeck db carousel.id
        ++ (edit.fresh.map (storySlide P settings)).map (·.content)) ↔
      (((storedDeck db carousel.id).length + edit.fresh.length : Nat) : Int)
        ≤ settings.maxSlides := by
    rw [deckFits_append (h carousel hmem) (storySlide_kind _), List.length_map, List.length_map]
    -- the handler has counted the story slides, and the new ids are new to the deck
    · rw [List.length_map, List.length_map, ← @storyCount_loadDeck P]
      exact hroom
    · rw [storySlide_ids]
      exact hids.nodup_iff.mpr (newStories_nodup _ _ _)
    · rw [storySlide_ids]
      intro id hid
      have hnew := of_decide_eq_true (List.mem_filter.mp (hids.mem_iff.mp hid)).2
      unfold storedDeck
      rw [List.filterMap_map]
      exact hnew.2
  show Capacity settings (saveDeck _ _ _ _) ↔ _
  rw [saveDeck_fits (fun other hother _ => h other hother) hmem]
  have hdeck : (storedDeck db carousel.id).length = (deckRows db carousel.id).length :=
    List.length_map _
  rw [hdeck, hcount] at hadded
  constructor
  · intro hfits _ _
    exact hadded.mp (hfits.perm hperm)
  · intro hcond
    refine (hadded.mpr (hcond ?_ (addDeck_accepted.mp ⟨edit, hedit⟩))).perm hperm.symm
    rw [hc]
    rfl

/-- **A save keeps the bounds exactly if its payload is within the two it does
not check.** -/
theorem saveCarousel_fits {carouselId : Nat} {data : DeckWrite settings} {now : Time}
    {r : CarouselResponse} (h : Capacity settings db)
    (hsave : saveCarousel P settings db carouselId data now = .ok (db', r)) :
    Capacity settings db' ↔ FitsDeck P db (.save carouselId data now) := by
  obtain ⟨carousel, hc, hknown, rfl⟩ := saveCarousel_ok hsave
  obtain ⟨hmem, rfl⟩ := getCarousel_id hc
  rw [saveDeck_fits (fun other hother _ => h other hother) hmem]
  -- the counts of the request are those of what is stored
  have hstories : ((data.slides.map (·.content)).filter fun slide => slide.kind = .story).length
      = (data.slides.filter fun slide => slide.kind = .story).length := by
    rw [List.filter_map, List.length_map]
    rfl
  have hnamed : (data.slides.map (·.content)).filterMap (·.storyId)
      = data.slides.filterMap (·.storyId) := by
    rw [List.filterMap_map]
    rfl
  constructor
  · intro hfits _ _
    exact ⟨hstories ▸ hfits.stories, hnamed ▸ hfits.distinct⟩
  · intro hcond
    obtain ⟨hfew, hdistinct⟩ := hcond (by rw [hc]; rfl) hknown
    refine ⟨hstories ▸ hfew, ?_, hnamed ▸ hdistinct⟩
    rw [List.length_map]
    exact data.slides_le

/-- **A call keeps the bounds exactly if its request does.** -/
theorem CarouselCall.run_fits {call : CarouselCall settings} (hkeys : CarouselKeys db)
    (h : Capacity settings db) (hrun : call.run P db = .ok db') :
    Capacity settings db' ↔ FitsDeck P db call := by
  cases call with
  | create data now =>
      obtain ⟨⟨_, r⟩, hcreate, rfl⟩ := except_map_ok.mp hrun
      exact iff_of_true (createCarousel_fits hkeys h hcreate) trivial
  | addStories carouselId data now =>
      obtain ⟨⟨_, r⟩, hadd, rfl⟩ := except_map_ok.mp hrun
      exact addStories_fits h hadd
  | save carouselId data now =>
      obtain ⟨⟨_, r⟩, hsave, rfl⟩ := except_map_ok.mp hrun
      exact saveCarousel_fits h hsave
  -- a download writes the times of its carousel and no slide
  | zip carouselId data now =>
      obtain ⟨⟨_, members⟩, hzip, rfl⟩ := except_map_ok.mp hrun
      obtain ⟨carousel, -, hc, rfl⟩ := zipSlides_ok hzip
      refine iff_of_true ?_ trivial
      intro carousel' hc'
      rcases (mem_setRow Carousel.id).mp hc' with ⟨rfl, -⟩ | ⟨hold, -⟩
      · exact h carousel (getCarousel_id hc).1
      · exact h carousel' hold
  -- what is left keeps the slides it had
  | delete carouselId =>
      obtain ⟨carousel, hc, rfl⟩ := deleteCarousel_ok hrun
      refine iff_of_true ?_ trivial
      intro carousel' hc'
      refine (h carousel' (List.mem_of_mem_filter hc')).sublist (List.Sublist.map _ ?_)
      exact List.filter_sublist.filter _

/-- A refused request leaves no deck over its bounds. -/
theorem fitsDeck_of_refused {call : CarouselCall settings}
    (hrefused : ∀ db', call.run P db ≠ .ok db') : FitsDeck P db call := by
  cases call with
  | create data now => trivial
  -- accepted by what the handler checks, so it would not have been refused
  | addStories carouselId data now =>
      intro hsome haccepted
      obtain ⟨carousel, hc⟩ := Option.isSome_iff_exists.mp hsome
      obtain ⟨db', hrun⟩ := addStories_runs now hc haccepted
      exact absurd hrun (hrefused db')
  | save carouselId data now =>
      intro hsome hknown
      obtain ⟨carousel, hc⟩ := Option.isSome_iff_exists.mp hsome
      obtain ⟨db', hrun⟩ := @saveCarousel_runs P settings db carouselId data now carousel hc hknown
      exact absurd hrun (hrefused db')
  | zip carouselId data now => trivial
  | delete carouselId => trivial

end Step

/-! ## §6. Runs. -/

/-- **EVERY DECK STAYS WITHIN ITS BOUNDS EXACTLY IF EVERY REQUEST DOES.** -/
theorem capacity_iff (P : Platform) (settings : Settings) (db : Db) (hcarousels : db.carousels = [])
    (hslides : db.slides = []) (calls : List (CarouselCall settings)) :
    Throughout (carouselStep P) (Capacity settings) db calls ↔
      Along (carouselStep P) (FitsDeck P) db calls := by
  have hfits : Capacity settings db := by
    intro carousel hc
    rw [hcarousels] at hc
    cases hc
  exact carouselStep_iff (fun _ _ _ hkeys h hrun => CarouselCall.run_fits hkeys h hrun)
    (fun _ _ hrefused => fitsDeck_of_refused hrefused) hcarousels hslides hfits calls

/-! ## §7. A deck of brackets. -/

/-- A selection of one story. -/
def selectOne (storyId : Str) (h : IsStoryId storyId) : CarouselRequest defaultSettings where
  storyIds := [storyId]
  storyIds_valid := List.forall_mem_singleton.mpr h
  storyIds_ne := List.cons_ne_nil _ _
  storyIds_le := by
    show (1 : Int) ≤ defaultSettings.maxStoryIds
    decide

theorem drainageId_valid : IsStoryId drainageId := by decide

theorem metroId_valid : IsStoryId metroId := by decide

/-- A deck of ten brackets, and a story added to it. -/
def addToBrackets : List (CarouselCall defaultSettings) :=
  [.create (selectOne drainageId drainageId_valid) (seconds 1790000000),
    .save 1 { slides := List.replicate 10 { kind := .intro, text := "Top news".toList } }
      (seconds 1790000060),
    .addStories 1 (selectOne drainageId drainageId_valid) (seconds 1790000120)]

/-- The add goes through: the deck holds more slides than a save may carry. -/
theorem addToBrackets_overfull :
    ∃ db, Run (carouselStep feedless) twoCities addToBrackets db
      ∧ ¬ Capacity defaultSettings db := by
  have hok : ∃ db ∈ exec (carouselStep feedless) twoCities addToBrackets,
      ¬ Capacity defaultSettings db := by
    decide +kernel
  obtain ⟨db, hrun, hover⟩ := hok
  exact ⟨db, run_iff_exec.mpr hrun, hover⟩

theorem capacity_iff_twoCities :
    Throughout (carouselStep feedless) (Capacity defaultSettings) twoCities addToBrackets ↔
      Along (carouselStep feedless) (FitsDeck feedless) twoCities addToBrackets :=
  capacity_iff feedless defaultSettings twoCities rfl rfl addToBrackets

end Feedcast
