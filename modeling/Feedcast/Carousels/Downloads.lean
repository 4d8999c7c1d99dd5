/-
  Feedcast.Carousels.Downloads — what the download state and the badge follow
  (`services/carousel.py`, `api/v1/endpoints/carousels.py`).

  Neither is stored: the state is read off a timestamp that only a built archive
  sets, and the badge off the decks as they are.  Ids are not handed out again,
  so a carousel's state is its own history:

    • `CarouselCall.run_carousels` — where the carousels after a call come from,
    • `historyStep_told` — every call keeps the state true to the archives,
    • `articleStates_iff` — the badge, in terms of the decks,
    • `downloads_follow_history` — both, over every run from an empty gallery.
-/
import Feedcast.Carousels.Capacity

namespace Feedcast

open Feedcast.Lib

/-! ## §1. The property. -/

/-- The gallery, and the carousels an archive has been built for. -/
structure GalleryHistory where
  db : Db
  zipped : List Nat := []

/-- The carousel whose archive a call builds. -/
def CarouselCall.zipped {settings : Settings} : CarouselCall settings → Option Nat
  | .zip carouselId _ _ => some carouselId
  | _ => none

/-- One request after another; a refused one leaves no trace. -/
def historyStep {settings : Settings} (P : Platform) (h : GalleryHistory)
    (call : CarouselCall settings) : Option GalleryHistory :=
  match call.run P h.db with
  | .ok db => some { db := db, zipped := call.zipped.toList ++ h.zipped }
  | .error _ => some h

/-- A deck names an article. -/
def Names (db : Db) (carousel : Carousel) (articleId : Str) : Prop :=
  ∃ row ∈ deckRows db carousel.id, row.articleId = some articleId

/-- **The state of a carousel is its history.** -/
def StatesFollow (h : GalleryHistory) : Prop :=
  ∀ carousel ∈ h.db.carousels,
    (carousel.state = "downloaded".toList ↔ carousel.id ∈ h.zipped)
      ∧ (carousel.state = "draft".toList ↔ carousel.id ∉ h.zipped)

/-- **The badges are those of the decks.** -/
structure BadgesFollow (db : Db) (articleIds : List Str) (articleId : Str) : Prop where
  downloaded : articleStates db articleIds articleId = some .downloaded ↔
    ∃ carousel ∈ db.carousels, Names db carousel articleId
      ∧ carousel.state = "downloaded".toList
  inDraft : articleStates db articleIds articleId = some .inDraft ↔
    (∃ carousel ∈ db.carousels, Names db carousel articleId)
      ∧ ∀ carousel ∈ db.carousels, Names db carousel articleId →
          carousel.state ≠ "downloaded".toList
  cleared : articleStates db articleIds articleId = none ↔
    ∀ carousel ∈ db.carousels, ¬ Names db carousel articleId

/-- A carousel that was downloaded still is, if it is there. -/
def NeverReverts (db db' : Db) : Prop :=
  ∀ carousel ∈ db.carousels, carousel.state = "downloaded".toList →
    ∀ carousel' ∈ db'.carousels, carousel'.id = carousel.id →
      carousel'.state = "downloaded".toList

theorem state_downloaded {carousel : Carousel} :
    carousel.state = "downloaded".toList ↔ carousel.lastDownloadedAt.isSome = true := by
  unfold Carousel.state
  split
  · next h => exact iff_of_true rfl h
  · next h => exact iff_of_false (by decide) h

theorem state_draft {carousel : Carousel} :
    carousel.state = "draft".toList ↔ ¬ carousel.lastDownloadedAt.isSome = true := by
  unfold Carousel.state
  split
  · next h => exact iff_of_false (by decide) (not_not_intro h)
  · next h => exact iff_of_true rfl h

/-! ## §2. Where the carousels come from. -/

section Calls

variable {P : Platform} {settings : Settings}

/-- A carousel after a call: one that was there, or a new one. -/
inductive CarouselFrom (db db' : Db) (zipped : Option Nat) (carousel' : Carousel) : Prop
  | kept (carousel : Carousel) (mem : carousel ∈ db.carousels) (id : carousel'.id = carousel.id)
      (state : carousel'.lastDownloadedAt.isSome ↔
        carousel.lastDownloadedAt.isSome ∨ zipped = some carousel.id)
  | new (id : carousel'.id = db.nextCarousel) (draft : carousel'.lastDownloadedAt = none)
      (unzipped : zipped = none)

theorem CarouselFrom.same {db db' : Db} {carousel : Carousel} (hmem : carousel ∈ db.carousels) :
    CarouselFrom db db' none carousel :=
  .kept carousel hmem rfl (by simp)

theorem saveDeck_from {db : Db} {loaded : LoadedCarousel} {slides : List SlideWrite} {now : Time}
    {db' : Db} {carousel' : Carousel} (h : carousel' ∈ (saveDeck db loaded slides now).carousels) :
    CarouselFrom db db' none carousel' := by
  obtain ⟨carousel, hmem, edited, rfl⟩ := mem_stampEdited h
  exact .kept carousel hmem rfl (by simp)

/-- **Where the carousels after a call come from.** -/
theorem CarouselCall.run_carousels {db db' : Db} {call : CarouselCall settings}
    (hrun : call.run P db = .ok db') :
    db.nextCarousel ≤ db'.nextCarousel
      ∧ ∀ carousel' ∈ db'.carousels, CarouselFrom db db' call.zipped carousel' := by
  cases call with
  | create data now =>
      obtain ⟨⟨_, r⟩, hcreate, rfl⟩ := except_map_ok.mp hrun
      obtain ⟨resolved, city, slides, -, -, -, rfl⟩ := createCarousel_ok hcreate
      refine ⟨Nat.le_succ _, ?_⟩
      intro carousel' hmem
      -- the new deck is stamped too, and only it can be new
      obtain ⟨carousel, hinserted, edited, rfl⟩ := mem_stampEdited hmem
      rcases List.mem_append.mp hinserted with hold | hnew
      · exact .kept carousel hold rfl (by simp [CarouselCall.zipped])
      · rw [List.mem_singleton.mp hnew]
        exact .new rfl rfl rfl
  | addStories carouselId data now =>
      obtain ⟨⟨_, r⟩, hadd, rfl⟩ := except_map_ok.mp hrun
      obtain ⟨carousel, edit, -, -, rfl⟩ := addStories_ok hadd
      exact ⟨Nat.le_refl _, fun carousel' hmem => saveDeck_from hmem⟩
  | save carouselId data now =>
      obtain ⟨⟨_, r⟩, hsave, rfl⟩ := except_map_ok.mp hrun
      obtain ⟨carousel, -, -, rfl⟩ := saveCarousel_ok hsave
      exact ⟨Nat.le_refl _, fun carousel' hmem => saveDeck_from hmem⟩
  | zip carouselId data now =>
      obtain ⟨⟨_, members⟩, hzip, rfl⟩ := except_map_ok.mp hrun
      obtain ⟨carousel, -, hc, rfl⟩ := zipSlides_ok hzip
      obtain ⟨hmem, hid⟩ := getCarousel_id hc
      refine ⟨Nat.le_refl _, ?_⟩
      intro carousel' hset
      rcases (mem_setRow Carousel.id).mp hset with ⟨rfl, -⟩ | ⟨hold, hne⟩
      · -- the carousel that was zipped
        exact .kept carousel hmem rfl (by simp [CarouselCall.zipped, hid])
      · refine .kept carousel' hold rfl ?_
        have hother : some carouselId ≠ some carousel'.id := fun h =>
          hne ((Option.some.inj h).symm.trans hid.symm)
        simp [CarouselCall.zipped, hother]
  | delete carouselId =>
      obtain ⟨carousel, -, rfl⟩ := deleteCarousel_ok hrun
      exact ⟨Nat.le_refl _, fun carousel' hmem => .same (List.mem_of_mem_filter hmem)⟩

/-- What is zipped is there. -/
theorem CarouselCall.run_zipped {db db' : Db} {call : CarouselCall settings} {carouselId : Nat}
    (hrun : call.run P db = .ok db') (hzipped : call.zipped = some carouselId) :
    ∃ carousel ∈ db.carousels, carousel.id = carouselId := by
  cases call with
  | zip carouselId' data now =>
      obtain ⟨⟨_, members⟩, hzip, rfl⟩ := except_map_ok.mp hrun
      obtain ⟨carousel, -, hc, -⟩ := zipSlides_ok hzip
      obtain rfl := Option.some.inj hzipped
      exact ⟨carousel, getCarousel_id hc⟩
  | _ => cases hzipped

end Calls

/-! ## §3. The state. -/

/-- The downloaded carousels are those an archive was built for, and no id that
was zipped is still to be handed out. -/
structure GalleryHistory.Told (h : GalleryHistory) : Prop where
  keys : CarouselKeys h.db
  states : ∀ carousel ∈ h.db.carousels,
    carousel.lastDownloadedAt.isSome ↔ carousel.id ∈ h.zipped
  spent : ∀ id ∈ h.zipped, id < h.db.nextCarousel

section History

variable {P : Platform} {settings : Settings} {h h' : GalleryHistory}
  {call : CarouselCall settings}

theorem historyStep_cases (hstep : historyStep P h call = some h') :
    h' = h ∨ ∃ db, call.run P h.db = .ok db
      ∧ h' = { db := db, zipped := call.zipped.toList ++ h.zipped } := by
  unfold historyStep at hstep
  split at hstep
  · next db hrun => exact Or.inr ⟨db, hrun, (Option.some.inj hstep).symm⟩
  · exact Or.inl (Option.some.inj hstep).symm

/-- **Every call keeps the state true to the archives.** -/
theorem historyStep_told (htold : h.Told) (hstep : historyStep P h call = some h') : h'.Told := by
  rcases historyStep_cases hstep with rfl | ⟨db, hrun, rfl⟩
  · exact htold
  · obtain ⟨hnext, hfrom⟩ := CarouselCall.run_carousels hrun
    refine { keys := CarouselCall.run_keys htold.keys hrun, states := ?_, spent := ?_ }
    · intro carousel' hmem
      rw [List.mem_append, Option.mem_toList]
      cases hfrom carousel' hmem with
      | kept carousel hold hid hstate =>
          rw [hstate, htold.states carousel hold, hid]
          exact or_comm
      | new hid hdraft hunzipped =>
          -- the id is the next of the sequence, so it was never zipped
          have hfresh : carousel'.id ∉ h.zipped := fun hin =>
            absurd (htold.spent _ hin) (by rw [hid]; exact Nat.lt_irrefl _)
          rw [hdraft, hunzipped]
          simp [hfresh]
    · -- the sequence only grows, so an id that is spent stays spent
      intro id hid
      refine Nat.lt_of_lt_of_le ?_ hnext
      rcases List.mem_append.mp hid with hnew | hold
      · obtain ⟨carousel, hmem, rfl⟩ := CarouselCall.run_zipped hrun (Option.mem_toList.mp hnew)
        exact htold.keys.fresh carousel hmem
      · exact htold.spent id hold

theorem historyStep_zipped (hstep : historyStep P h call = some h') : h.zipped ⊆ h'.zipped := by
  rcases historyStep_cases hstep with rfl | ⟨db, -, rfl⟩
  · exact List.Subset.refl _
  · exact List.subset_append_right _ _

theorem historyRun_told {calls : List (CarouselCall settings)} (htold : h.Told)
    (hrun : Run (historyStep P) h calls h') : h'.Told :=
  Run.invariant (I := GalleryHistory.Told) (fun _ _ _ ht hstep => historyStep_told ht hstep) hrun
    htold

theorem historyRun_zipped {calls : List (CarouselCall settings)}
    (hrun : Run (historyStep P) h calls h') : h.zipped ⊆ h'.zipped :=
  Run.relates (R := fun s t => s.zipped ⊆ t.zipped) (fun _ => List.Subset.refl _)
    (fun _ _ _ => List.Subset.trans) (fun _ _ _ hstep => historyStep_zipped hstep) hrun

theorem GalleryHistory.Told.statesFollow (htold : h.Told) : StatesFollow h := by
  intro carousel hmem
  rw [state_downloaded, state_draft, htold.states carousel hmem]
  exact ⟨Iff.rfl, Iff.rfl⟩

theorem GalleryHistory.Told.neverReverts (htold : h.Told) (htold' : h'.Told)
    (hsub : h.zipped ⊆ h'.zipped) : NeverReverts h.db h'.db := by
  intro carousel hmem hdownloaded carousel' hmem' hid
  have hzipped := (htold.statesFollow carousel hmem).1.mp hdownloaded
  refine (htold'.statesFollow carousel' hmem').1.mpr ?_
  rw [hid]
  exact hsub hzipped

end History

/-! ## §4. The badge. -/

section Badge

variable {db : Db}

/-- The carousels a badge is made of: those whose deck names the article. -/
theorem mem_holding (hkeys : CarouselKeys db) {articleId : Str} {carousel : Carousel} :
    carousel ∈ (db.slides.filter fun slide => slide.articleId = some articleId).filterMap
        (fun slide => db.getCarousel slide.carouselId)
      ↔ carousel ∈ db.carousels ∧ Names db carousel articleId := by
  rw [List.mem_filterMap]
  constructor
  · intro h
    obtain ⟨slide, hslide, hget⟩ := h
    obtain ⟨hmem, hnames⟩ := List.mem_filter.mp hslide
    obtain ⟨hcarousel, hid⟩ := getCarousel_id hget
    exact ⟨hcarousel, slide, List.mem_filter.mpr ⟨hmem, by simpa using hid.symm⟩,
      of_decide_eq_true hnames⟩
  · intro h
    obtain ⟨hcarousel, slide, hslide, hnames⟩ := h
    obtain ⟨hmem, hid⟩ := List.mem_filter.mp hslide
    refine ⟨slide, List.mem_filter.mpr ⟨hmem, decide_eq_true hnames⟩, ?_⟩
    -- the foreign key finds the carousel, for its id is its own
    rw [of_decide_eq_true hid]
    exact hkeys.get hcarousel

/-- The badge that the carousels holding an article give it. -/
theorem badge_iff (held : List Carousel) :
    let badge : Option CarouselState :=
      if held = [] then none
      else if held.any fun carousel => carousel.lastDownloadedAt.isSome then some .downloaded
      else some .inDraft
    (badge = some .downloaded ↔ held.any fun carousel => carousel.lastDownloadedAt.isSome)
      ∧ (badge = some .inDraft ↔
          held ≠ [] ∧ ¬ held.any fun carousel => carousel.lastDownloadedAt.isSome)
      ∧ (badge = none ↔ held = []) := by
  by_cases hnil : held = []
  · simp [hnil]
  · by_cases hany : held.any fun carousel => carousel.lastDownloadedAt.isSome
    · simp [hnil, hany]
    · simp [hnil, hany]

/-- **The badge, in terms of the decks.** -/
theorem articleStates_iff (hkeys : CarouselKeys db) {articleIds : List Str} {articleId : Str}
    (hasked : articleId ∈ articleIds) : BadgesFollow db articleIds articleId := by
  -- no carousel of the list holds the story: the badge is cleared
  have hempty : (db.slides.filter fun slide => slide.articleId = some articleId).filterMap
      (fun slide => db.getCarousel slide.carouselId) = [] ↔
        ∀ carousel ∈ db.carousels, ¬ Names db carousel articleId := by
    rw [List.eq_nil_iff_forall_not_mem]
    exact forall_congr' fun carousel => by rw [mem_holding hkeys, not_and]
  -- one of them was downloaded: that outranks a draft
  have hany : ((db.slides.filter fun slide => slide.articleId = some articleId).filterMap
      (fun slide => db.getCarousel slide.carouselId)).any
        (fun carousel => carousel.lastDownloadedAt.isSome) = true ↔
        ∃ carousel ∈ db.carousels, Names db carousel articleId
          ∧ carousel.state = "downloaded".toList := by
    rw [List.any_eq_true]
    refine exists_congr fun carousel => ?_
    rw [mem_holding hkeys, state_downloaded, and_assoc]
  have hbadge := badge_iff
    ((db.slides.filter fun slide => slide.articleId = some articleId).filterMap
      fun slide => db.getCarousel slide.carouselId)
  have heval : articleStates db articleIds articleId = _ := if_pos hasked
  obtain ⟨hdownloaded, hdraft, hnone⟩ := hbadge
  refine { downloaded := ?_, inDraft := ?_, cleared := ?_ }
  · rw [heval]
    exact hdownloaded.trans hany
  · rw [heval]
    refine hdraft.trans (and_congr ?_ ?_)
    · rw [ne_eq, hempty]
      simp only [not_forall, not_not, exists_prop]
    · rw [hany]
      simp only [not_exists, not_and, ne_eq]
  · rw [heval]
    exact hnone.trans hempty

end Badge

/-! ## §5. Runs. -/

/-- **THE STATE FOLLOWS THE ARCHIVES, AND THE BADGE FOLLOWS THE DECKS.** -/
theorem downloads_follow_history (P : Platform) (settings : Settings) (db : Db)
    (hcarousels : db.carousels = []) (hslides : db.slides = [])
    (calls : List (CarouselCall settings)) (h : GalleryHistory)
    (hrun : Run (historyStep P) { db := db } calls h) :
    StatesFollow h
      ∧ (∀ (calls' : List (CarouselCall settings)) (h' : GalleryHistory),
          Run (historyStep P) h calls' h' → NeverReverts h.db h'.db)
      ∧ ∀ articleIds, ∀ articleId ∈ articleIds, BadgesFollow h.db articleIds articleId := by
  have hstart : GalleryHistory.Told { db := db } := by
    refine { keys := ⟨?_, ?_, ?_⟩, states := ?_, spent := ?_ } <;> simp [hcarousels, hslides]
  -- the invariant of the whole history, from a gallery that is empty
  have htold := historyRun_told hstart hrun
  refine ⟨htold.statesFollow, ?_, ?_⟩
  · intro calls' h' hrun'
    exact htold.neverReverts (historyRun_told htold hrun') (historyRun_zipped hrun')
  · intro articleIds articleId hasked
    exact articleStates_iff htold.keys hasked

/-- One page of nothing. -/
def onePage : ZipRequest defaultSettings where
  images := ["data:image/jpeg;base64,AAAA".toList]

/-- A deck is built, downloaded and edited, and a second zip is refused. -/
def downloadThenEdit : List (CarouselCall defaultSettings) :=
  [.create (selectOne drainageId drainageId_valid) (seconds 1790000000),
    .zip 1 onePage (seconds 1790000060),
    .addStories 1 (selectOne metroId metroId_valid) (seconds 1790000120),
    .zip 2 onePage (seconds 1790000180)]

theorem downloads_follow_history_edited :
    ∃ h, Run (historyStep feedless) { db := twoCities } downloadThenEdit h ∧ h.zipped = [1]
      ∧ StatesFollow h ∧ BadgesFollow h.db [metroId] metroId := by
  have hok : ∃ h ∈ exec (historyStep feedless) { db := twoCities } downloadThenEdit,
      h.zipped = [1] := by
    decide +kernel
  obtain ⟨h, hexec, hzipped⟩ := hok
  have hrun := run_iff_exec.mpr hexec
  obtain ⟨hstates, -, hbadges⟩ := downloads_follow_history feedless defaultSettings twoCities rfl
    rfl downloadThenEdit h hrun
  exact ⟨h, hrun, hzipped, hstates, hbadges [metroId] metroId List.mem_cons_self⟩

end Feedcast
