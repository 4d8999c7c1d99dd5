/-
  Feedcast.Carousels.CanvasView — what the canvas shows is what the store holds.

  The page repaints on every change that the store announces, and redraws two
  canvases on a keystroke; `active` is a variable beside all that.  Two
  statements, over every run of the page:

    • `StudioPage.step_faithful` — the slides, the field and the labels on the
      page are those of the deck, whatever `active` says,
    • `StudioPage.step_right_iff` — the step that moves `active` off the stage,
      or the deck under a question,
    • `canvas_view_iff` — both over runs, and what follows once `paint` has
      raised.
-/
import Feedcast.Lib.Runs
import Feedcast.Static.Studio
import Mathlib.Data.List.InsertIdx

namespace Feedcast

open Feedcast.Lib

/-! ## §1. Frames. -/

/-- A frame is that of a deck with a slide on the stage. -/
structure Frame.Of (frame : Frame) (deck : List JsSlide) (slide : JsSlide) : Prop where
  onStage : deck[frame.shown]? = some slide
  /-- The canvases show what a fresh drawing would. -/
  thumbs : ∀ measure, frame.thumbs.map (drawSlide measure) = deck.map (drawSlide measure)
  preview : ∀ measure, drawSlide measure frame.preview = drawSlide measure slide
  field : frame.field = slide.content.text
  count : frame.count = slide.content.text.length
  /-- The warning stays until the next `paint`. -/
  warned : slide.content.clipped = true → frame.warned = true
  /-- The inspector reads a slide that differs in what typing changes only. -/
  inspected : frame.slide.withText [] = slide.withText []
  total : frame.total = deck.length
  prevDisabled : frame.prevDisabled = true ↔ frame.shown = 0
  nextDisabled : frame.nextDisabled = true ↔ frame.shown + 1 = deck.length

section Frames

variable {deck : List JsSlide} {slide : JsSlide} {frame : Frame} {text : JsStr} {i : Nat}

theorem stageFrame_of (hslide : deck[i]? = some slide) :
    (stageFrame deck i slide).Of deck slide where
  onStage := hslide
  thumbs := fun _ => rfl
  preview := fun _ => rfl
  field := rfl
  count := rfl
  warned := id
  inspected := rfl
  total := rfl
  prevDisabled := decide_eq_true_iff
  nextDisabled := decide_eq_true_iff

/-- Typing over typed text. -/
theorem withText_withText (slide : JsSlide) (before text : JsStr) :
    (slide.withText before).withText text = slide.withText text := rfl

/-- `drawSlide` does not read the badge. -/
theorem drawSlide_withText (measure : Measure) (slide : JsSlide) (h : text.length ≤ textMax) :
    drawSlide measure { slide with content := { slide.content with text := text } }
      = drawSlide measure (slide.withText text) := by
  unfold JsSlide.withText
  rw [List.take_of_length_le h]
  rfl

theorem Frame.Of.shown_lt (h : frame.Of deck slide) : frame.shown < deck.length :=
  (List.getElem?_eq_some_iff.mp h.onStage).1

/-- **A keystroke keeps the frame that of the deck.** -/
theorem Frame.Of.typed (h : frame.Of deck slide) (hfits : text.length ≤ textMax) :
    (frame.typed text).Of (deck.modify frame.shown (·.withText text)) (slide.withText text) where
  onStage := by
    show (deck.modify frame.shown (·.withText text))[frame.shown]? = _
    rw [List.getElem?_modify_eq, h.onStage]
    rfl
  thumbs := by
    intro measure
    -- the slide of the frame may be an older copy: only its text was typed over since
    have hedited : drawSlide measure
        { frame.slide with content := { frame.slide.content with text := text } }
        = drawSlide measure (slide.withText text) := by
      rw [drawSlide_withText measure frame.slide hfits, ← withText_withText frame.slide [],
        h.inspected, withText_withText]
    show (frame.thumbs.set frame.shown _).map (drawSlide measure) = _
    rw [List.map_set, hedited, h.thumbs, ← List.map_set, List.modify_eq_set_getElem?, h.onStage]
    rfl
  preview := by
    intro measure
    show drawSlide measure { frame.slide with content := _ } = _
    rw [drawSlide_withText measure frame.slide hfits, ← withText_withText frame.slide [],
      h.inspected, withText_withText]
  field := (List.take_of_length_le hfits).symm
  count := by
    show text.length = (text.take textMax).length
    rw [List.take_of_length_le hfits]
  -- typing sets `clipped` to false, so nothing is owed of the warning
  warned := nofun
  inspected := h.inspected
  total := by
    rw [List.length_modify]
    exact h.total
  prevDisabled := h.prevDisabled
  nextDisabled := by
    rw [List.length_modify]
    exact h.nextDisabled

end Frames

/-! ## §2. Painting. -/

/-- What `paint` can leave. -/
inductive Painted (store : SlideStore) (active : Int) : Int × Screen → Prop
  | empty : store.deck = [] → Painted store active (active, .empty)
  | blank : store.deck ≠ [] → active < 0 → Painted store active (active, .blank)
  | stage (i : Nat) (slide : JsSlide) : 0 ≤ active → store.inDeck active = i →
      store.deck[i]? = some slide →
      Painted store active ((i : Int), .stage (stageFrame store.deck i slide))

section Painting

variable {store : SlideStore} {active : Int}

theorem paint_painted (store : SlideStore) (active : Int) :
    Painted store active (store.paint active) := by
  unfold SlideStore.paint
  by_cases hdeck : store.deck = []
  · rw [if_pos hdeck]
    exact Painted.empty hdeck
  · rw [if_neg hdeck]
    have hpos : 0 < store.deck.length := List.length_pos_iff.mpr hdeck
    -- the test against the length leaves a negative `active` alone: `deck[active]` is undefined
    rcases Int.lt_or_le active 0 with hneg | hnonneg
    · have hin : store.inDeck active = active := by
        unfold SlideStore.inDeck
        rw [if_neg (by omega)]
      have hslot : store.slot active = none := by
        unfold SlideStore.slot
        rw [if_neg (by omega)]
      simp only [hin, hslot, Option.bind_none]
      exact Painted.blank hdeck hneg
    · have hbounds : 0 ≤ store.inDeck active ∧ store.inDeck active < store.deck.length := by
        unfold SlideStore.inDeck
        split <;> omega
      obtain ⟨i, hi⟩ := Int.eq_ofNat_of_zero_le hbounds.1
      have hlt : i < store.deck.length := by omega
      have hslot : store.slot (i : Int) = some i := by
        unfold SlideStore.slot
        rw [if_pos (by omega)]
        rfl
      simp only [hi, hslot, Option.bind_some, List.getElem?_eq_getElem hlt, Option.map_some]
      exact Painted.stage i _ hnonneg hi (List.getElem?_eq_getElem hlt)

/-- An index into the deck stays. -/
theorem paint_inRange {i : Nat} (hlt : i < store.deck.length) : (store.paint i).1 = i := by
  have hin : store.inDeck i = i := by
    unfold SlideStore.inDeck
    rw [if_neg (by omega)]
  generalize hpaint : store.paint i = painted
  have hpainted := paint_painted store i
  rw [hpaint] at hpainted
  cases hpainted with
  | empty _ => rfl
  | blank _ _ => rfl
  | stage j slide _ hj _ => exact hj.symm.trans hin

end Painting

/-! ## §3. What is on the page, in any case. -/

/-- The body of the page. -/
def StudioPage.Shows (page : StudioPage) : Prop :=
  match page.screen with
  | .stage frame => ∃ slide, frame.Of page.store.deck slide
  | .empty => page.renders = 0 ∨ page.store.deck = []
  | .blank => page.store.deck ≠ [] ∧ page.active < 0

/-- **The page is faithful to the store.** -/
structure StudioPage.Faithful (page : StudioPage) : Prop where
  shows : page.Shows
  head : page.renders = 0 ∨ page.head = (page.store.deck.length, page.store.savedAt)
  fits : ∀ slide ∈ page.store.deck, slide.content.text.length ≤ textMax

/-- What is needed besides: before the first render nothing has been asked, and
below zero nothing can be. -/
structure StudioPage.Inv (page : StudioPage) : Prop where
  faithful : page.Faithful
  unrendered : page.renders = 0 →
    page.visible = false ∧ page.screen = .empty ∧ page.dialog = none ∧ page.adds = []
  dead : page.active < 0 → page.dialog = none ∧ ∀ frame, page.screen ≠ .stage frame

section Inv

variable {page page' : StudioPage} {event : StudioEvent} {store : SlideStore} {render index : Nat}
  {slides : List JsSlide}

theorem StudioPage.frame_some {frame : Frame} (h : page.frame = some frame) :
    page.visible = true ∧ page.dialog = none ∧ page.screen = .stage frame := by
  unfold StudioPage.frame at h
  split at h
  · next hvisible hdialog hscreen =>
      cases h
      exact ⟨hvisible, hdialog, hscreen⟩
  · cases h

/-- Whatever is on the deck fits its field. -/
def SlideStore.Fits (store : SlideStore) : Prop :=
  ∀ slide ∈ store.deck, slide.content.text.length ≤ textMax

theorem SlideStore.mutated_fits {action : DeckEditAction} {deck : List JsSlide}
    (h : store.Fits) (hdeck : store.mutated action = some deck) :
    ∀ slide ∈ deck, slide.content.text.length ≤ textMax := by
  intro slide hmem
  cases action with
  | add =>
      simp only [SlideStore.mutated] at hdeck
      split at hdeck
      · cases hdeck
      · obtain rfl := Option.some.inj hdeck
        rcases List.mem_append.mp hmem with hold | hnew
        · exact h slide hold
        · rw [List.mem_singleton.mp hnew]
          exact JsContent.clean_fits _
  | setText index text =>
      obtain ⟨i, -, hdeck⟩ := Option.bind_eq_some_iff.mp hdeck
      obtain rfl := Option.some.inj hdeck
      obtain ⟨j, hj⟩ := List.mem_iff_getElem?.mp hmem
      rw [List.getElem?_modify] at hj
      obtain ⟨old, hold, hslide⟩ := Option.map_eq_some_iff.mp hj
      subst hslide
      -- `setText` cuts what was typed; the other slides are untouched
      by_cases hij : i = j
      · rw [if_pos hij]
        exact List.length_take_le _ _
      · rw [if_neg hij]
        exact h old (List.mem_of_getElem? hold)
  | remove index =>
      obtain ⟨i, -, hdeck⟩ := Option.bind_eq_some_iff.mp hdeck
      obtain rfl := Option.some.inj hdeck
      exact h slide ((List.eraseIdx_sublist _ _).subset hmem)
  | move source target =>
      simp only [SlideStore.mutated] at hdeck
      split at hdeck
      · cases hdeck
      · obtain ⟨i, -, hdeck⟩ := Option.bind_eq_some_iff.mp hdeck
        obtain ⟨j, -, hdeck⟩ := Option.bind_eq_some_iff.mp hdeck
        obtain ⟨moved, hmoved, hdeck⟩ := Option.bind_eq_some_iff.mp hdeck
        obtain rfl := Option.some.inj hdeck
        -- the slide that was taken out is put back as it is
        rcases List.eq_or_mem_of_mem_insertIdx hmem with rfl | hrest
        · exact h slide (List.mem_of_getElem? hmoved)
        · exact h slide ((List.eraseIdx_sublist _ _).subset hrest)

/-- An edit leaves what it makes of the deck, and the timer. -/
theorem SlideStore.edit_deck {action : DeckEditAction} {deck : List JsSlide}
    (hdeck : store.mutated action = some deck) :
    (store.edit action).deck = deck ∧ (store.edit action).savedAt = store.savedAt := by
  unfold SlideStore.edit SlideStore.scheduleSave
  simp only [hdeck]
  split <;> exact ⟨rfl, rfl⟩

theorem SlideStore.edit_fits (h : store.Fits) (action : DeckEditAction) :
    (store.edit action).Fits := by
  cases hdeck : store.mutated action with
  | none =>
      unfold SlideStore.edit
      rw [hdeck]
      exact h
  | some deck =>
      unfold SlideStore.Fits
      rw [(SlideStore.edit_deck hdeck).1]
      exact SlideStore.mutated_fits h hdeck

theorem SlideStore.load_fits (id : Nat) (slides : List JsSlide) :
    (SlideStore.load id slides).Fits := by
  intro slide hmem
  obtain ⟨raw, -, rfl⟩ := List.mem_map.mp hmem
  exact JsContent.clean_fits _

theorem StudioPage.repaint_shows (page : StudioPage) : page.repaint.Shows := by
  unfold StudioPage.Shows StudioPage.repaint
  have hpainted := paint_painted page.store page.active
  generalize page.store.paint page.active = painted at hpainted
  cases hpainted with
  | empty hdeck => exact Or.inr hdeck
  | blank hdeck hneg => exact ⟨hdeck, hneg⟩
  | stage i slide _ _ hslide => exact ⟨slide, stageFrame_of hslide⟩

/-- A fresh `paint` that does not raise has `active` on the stage. -/
theorem StudioPage.repaint_active (page : StudioPage) {frame : Frame}
    (h : page.repaint.screen = .stage frame) : page.repaint.active = frame.shown := by
  have hpainted := paint_painted page.store page.active
  unfold StudioPage.repaint at h ⊢
  generalize page.store.paint page.active = painted at hpainted h
  cases hpainted with
  | empty _ => cases h
  | blank _ _ => cases h
  | stage i slide _ _ _ =>
      cases h
      rfl

theorem StudioPage.repaint_nonneg (page : StudioPage) :
    0 ≤ page.repaint.active ↔ 0 ≤ page.active := by
  have hpainted := paint_painted page.store page.active
  unfold StudioPage.repaint
  generalize page.store.paint page.active = painted at hpainted
  cases hpainted with
  | empty _ => exact Iff.rfl
  | blank _ _ => exact Iff.rfl
  | stage i slide hactive _ _ => exact iff_of_true (Int.natCast_nonneg i) hactive

theorem StudioPage.repaint_inv (hfits : page.store.Fits) (hrenders : page.renders ≠ 0)
    (hdead : page.active < 0 → page.dialog = none) : page.repaint.Inv where
  faithful := ⟨page.repaint_shows, Or.inr rfl, hfits⟩
  unrendered := fun h => absurd h hrenders
  dead := by
    intro hneg
    -- painting clamps the index from above only, so its sign stays
    have hactive : page.active < 0 := by
      have := page.repaint_nonneg
      omega
    refine ⟨hdead hactive, ?_⟩
    intro frame hstage
    have := page.repaint_active hstage
    omega

/-- **A change that the store announces.** -/
theorem StudioPage.Inv.announce (h : page.Inv) (hfits : store.Fits) :
    (StudioPage.announce { page with store := store }).Inv := by
  unfold StudioPage.announce
  split
  -- before the first render nobody listens, so nothing is painted
  · next hrenders =>
      obtain ⟨hvisible, hscreen, hdialog, hadds⟩ := h.unrendered hrenders
      refine ⟨⟨?_, Or.inl hrenders, hfits⟩, h.unrendered, h.dead⟩
      unfold StudioPage.Shows
      rw [hscreen]
      exact Or.inl hrenders
  · next hrenders =>
      exact repaint_inv hfits hrenders fun hneg => (h.dead hneg).1

/-- Another slide is active, and the page is as it was. -/
theorem StudioPage.Inv.activate {active : Int} (h : page.Inv) (hblank : page.screen ≠ .blank)
    (hactive : 0 ≤ active) : StudioPage.Inv { page with active := active } where
  faithful := by
    refine ⟨?_, h.faithful.head, h.faithful.fits⟩
    -- what the screen shows does not depend on the active slide
    have hshows := h.faithful.shows
    unfold StudioPage.Shows at hshows ⊢
    cases hscreen : page.screen with
    | empty =>
        rw [hscreen] at hshows
        exact hshows
    | blank => exact absurd hscreen hblank
    | stage frame =>
        rw [hscreen] at hshows
        exact hshows
  unrendered := h.unrendered
  dead := fun hneg => absurd hneg (Int.not_lt.mpr hactive)

/-- **The view of a tile, or one that is gone.** -/
theorem StudioPage.Inv.show {index : Int} (h : page.Inv) (hrenders : page.renders ≠ 0)
    (hblank : page.screen ≠ .blank)
    (hindex : 0 ≤ index ∨ (render = page.renders ∧ page.dialog = none)) :
    (page.show render index).Inv := by
  unfold StudioPage.show
  split
  · refine repaint_inv h.faithful.fits hrenders ?_
    intro hneg
    rcases hindex with hnonneg | ⟨-, hdialog⟩
    · exact absurd hneg (Int.not_lt.mpr hnonneg)
    · exact hdialog
  · next hother =>
      have hnonneg : 0 ≤ index := hindex.resolve_right fun hboth => hother hboth.1
      exact h.activate hblank
        ((StudioPage.repaint_nonneg { page with active := index }).mpr hnonneg)

/-- A page with a strip has been rendered. -/
theorem StudioPage.Inv.rendered (h : page.Inv) {frame : Frame} (hframe : page.frame = some frame) :
    page.renders ≠ 0 := by
  intro hzero
  have hscreen := (frame_some hframe).2.2
  rw [(h.unrendered hzero).2.1] at hscreen
  cases hscreen

theorem StudioPage.Inv.of_frame (h : page.Inv) {frame : Frame} (hframe : page.frame = some frame) :
    ∃ slide, frame.Of page.store.deck slide := by
  have hshows := h.faithful.shows
  unfold StudioPage.Shows at hshows
  rw [(frame_some hframe).2.2] at hshows
  exact hshows

/-- Without a strip nothing is below zero. -/
theorem StudioPage.Inv.active_nonneg (h : page.Inv) {frame : Frame}
    (hframe : page.frame = some frame) : 0 ≤ page.active := by
  rcases Int.lt_or_le page.active 0 with hneg | hnonneg
  · exact absurd (frame_some hframe).2.2 ((h.dead hneg).2 frame)
  · exact hnonneg

/-- What stands beside the page and the store. -/
theorem StudioPage.Inv.aside (h : page.Inv) {visible : Bool} {dragged : Option Nat}
    {dialog : Option StudioDialog} {adds : List StoryAdd}
    (hunrendered : page.renders = 0 → visible = false ∧ dialog = none ∧ adds = [])
    (hdead : page.active < 0 → dialog = none) :
    StudioPage.Inv { page with
      visible := visible, dragged := dragged, dialog := dialog, adds := adds } where
  faithful := ⟨h.faithful.shows, h.faithful.head, h.faithful.fits⟩
  unrendered := by
    -- what the screen shows is not touched
    intro hzero
    obtain ⟨hvisible, hdialog, hadds⟩ := hunrendered hzero
    exact ⟨hvisible, (h.unrendered hzero).2.1, hdialog, hadds⟩
  dead := fun hneg => ⟨hdead hneg, (h.dead hneg).2⟩

/-- The text of the slide on the stage, in the deck. -/
theorem SlideStore.mutated_typed {frame : Frame} {slide : JsSlide} (text : JsStr)
    (h : frame.Of store.deck slide) :
    store.mutated (.setText frame.shown text)
      = some (store.deck.modify frame.shown (·.withText text)) := by
  have hlt := h.shown_lt
  simp only [SlideStore.mutated, SlideStore.slot]
  rw [if_pos (by omega)]
  rfl

theorem StudioPage.type_inv {frame : Frame} {text : JsStr} (h : page.Inv)
    (hframe : page.frame = some frame) (hfits : text.length ≤ textMax) :
    StudioPage.Inv { page with
      screen := .stage (frame.typed text)
      store := page.store.edit (.setText frame.shown text) } := by
  obtain ⟨slide, hof⟩ := h.of_frame hframe
  have hnonneg := h.active_nonneg hframe
  obtain ⟨hdeck, hsaved⟩ := SlideStore.edit_deck (SlideStore.mutated_typed text hof)
  refine ⟨⟨?_, ?_, SlideStore.edit_fits h.faithful.fits _⟩, ?_, ?_⟩
  · refine ⟨slide.withText text, ?_⟩
    rw [hdeck]
    exact hof.typed hfits
  · rcases h.faithful.head with hzero | hhead
    · exact Or.inl hzero
    · right
      show page.head = _
      rw [hdeck, hsaved, List.length_modify]
      exact hhead
  -- a page with a frame was rendered, and its `active` is on the deck
  · intro hzero
    exact absurd hzero (h.rendered hframe)
  · intro hneg
    exact absurd hneg (Int.not_lt.mpr hnonneg)

/-- No dialog, and no request, before the first render. -/
theorem StudioPage.Inv.asked (h : page.Inv) {dialog : StudioDialog}
    (hdialog : page.dialog = some dialog) : page.renders ≠ 0 ∧ 0 ≤ page.active := by
  constructor
  · intro hzero
    rw [(h.unrendered hzero).2.2.1] at hdialog
    cases hdialog
  · rcases Int.lt_or_le page.active 0 with hneg | hnonneg
    · rw [(h.dead hneg).1] at hdialog
      cases hdialog
    · exact hnonneg

theorem StudioPage.Inv.edited (h : page.Inv) (action : DeckEditAction) :
    (page.edited action).Inv := by
  unfold StudioPage.edited
  split
  · exact h
  · exact h.announce (SlideStore.edit_fits h.faithful.fits _)

theorem StudioPage.announce_renders (page : StudioPage) : page.announce.renders = page.renders := by
  unfold StudioPage.announce
  split <;> rfl

theorem StudioPage.edited_renders (page : StudioPage) (action : DeckEditAction) :
    (page.edited action).renders = page.renders := by
  unfold StudioPage.edited
  split
  · rfl
  · exact announce_renders _

theorem StudioPage.Inv.keepInside (h : page.Inv) : page.keepInside.Inv := by
  unfold StudioPage.keepInside
  split
  · exact h
  · next hblank =>
      split
      · exact h.activate hblank (le_max_left _ _)
      · exact h

/-- The slide that is new. -/
theorem StudioPage.Inv.select (h : page.Inv) (hrenders : page.renders ≠ 0)
    (index : Option Nat) : (page.select render index).Inv := by
  unfold StudioPage.select
  split
  · exact h
  · next hblank =>
      cases index with
      | none => exact h
      | some index => exact h.show hrenders hblank (Or.inl (Int.natCast_nonneg index))

theorem StudioPage.screen_ne_blank {frame : Frame} (hframe : page.frame = some frame) :
    page.screen ≠ .blank := by
  rw [(frame_some hframe).2.2]
  exact nofun

/-- A thumbnail, or an arrow. -/
theorem StudioPage.Inv.clicked {frame : Frame} (h : page.Inv) (hframe : page.frame = some frame)
    (index : Int) : (page.show page.renders index).Inv :=
  h.show (h.rendered hframe) (screen_ne_blank hframe) (Or.inr ⟨rfl, (frame_some hframe).2.1⟩)

theorem StudioPage.Inv.asks {frame : Frame} (h : page.Inv) (hframe : page.frame = some frame)
    (dialog : StudioDialog) : StudioPage.Inv { page with dialog := some dialog } :=
  h.aside (fun hzero => absurd hzero (h.rendered hframe))
    fun hneg => absurd hneg (Int.not_lt.mpr (h.active_nonneg hframe))

theorem StudioPage.Inv.closed {dialog : StudioDialog} (h : page.Inv)
    (hdialog : page.dialog = some dialog) (adds : List StoryAdd) :
    StudioPage.Inv { page with dialog := none, adds := adds } :=
  h.aside (fun hzero => absurd hzero (h.asked hdialog).1) fun _ => rfl

theorem StudioPage.Inv.waited {k : Nat} {add : StoryAdd} (h : page.Inv)
    (hadd : page.adds[k]? = some add) : page.renders ≠ 0 := by
  intro hzero
  rw [(h.unrendered hzero).2.2.2] at hadd
  cases hadd

theorem StudioPage.Inv.written (h : page.Inv) (hdialog : page.dialog = some (.choose render)) :
    (page.written render).Inv := by
  refine ((h.closed hdialog page.adds).edited .add).select ?_ _
  rw [edited_renders]
  exact (h.asked hdialog).1

theorem StudioPage.Inv.addLanded {k : Nat} {add : StoryAdd} {carouselId : Nat} (h : page.Inv)
    (hadd : page.adds[k]? = some add) :
    (StudioPage.addLanded { page with adds := page.adds.eraseIdx k } add carouselId
      slides).Inv := by
  have hrest : StudioPage.Inv { page with adds := page.adds.eraseIdx k } :=
    h.aside (fun hzero => absurd hzero (h.waited hadd)) fun hneg => (h.dead hneg).1
  have hloaded := hrest.announce (SlideStore.load_fits carouselId slides)
  refine hloaded.select ?_ _
  rw [announce_renders]
  exact h.waited hadd

/-- **Every step keeps the page faithful.** -/
theorem StudioPage.step_inv (h : page.Inv) (hstep : page.step event = some page') : page'.Inv := by
  cases event with
  | render =>
      simp only [StudioPage.step] at hstep
      split at hstep
      · cases hstep
      · obtain rfl := Option.some.inj hstep
        exact repaint_inv h.faithful.fits (Nat.succ_ne_zero _) fun hneg => (h.dead hneg).1
  -- the listener stays behind, and what it painted last
  | leave =>
      obtain rfl := Option.some.inj hstep
      exact h.aside (fun hzero => ⟨rfl, (h.unrendered hzero).2.2⟩) fun hneg => (h.dead hneg).1
  | type text =>
      obtain ⟨frame, hframe, hstep⟩ := Option.bind_eq_some_iff.mp hstep
      split at hstep
      · cases hstep
      · next hfits =>
          obtain rfl := Option.some.inj hstep
          exact type_inv h hframe (Nat.le_of_not_lt hfits)
  | pick index =>
      obtain ⟨frame, hframe, hstep⟩ := Option.bind_eq_some_iff.mp hstep
      split at hstep
      · cases hstep
      · obtain rfl := Option.some.inj hstep
        exact h.clicked hframe _
  | prev =>
      obtain ⟨frame, hframe, hstep⟩ := Option.bind_eq_some_iff.mp hstep
      split at hstep
      · cases hstep
      · obtain rfl := Option.some.inj hstep
        exact h.clicked hframe _
  | next =>
      obtain ⟨frame, hframe, hstep⟩ := Option.bind_eq_some_iff.mp hstep
      split at hstep
      · cases hstep
      · obtain rfl := Option.some.inj hstep
        exact h.clicked hframe _
  | dragStart index =>
      obtain ⟨frame, hframe, hstep⟩ := Option.bind_eq_some_iff.mp hstep
      split at hstep
      · cases hstep
      · obtain rfl := Option.some.inj hstep
        exact h.aside (fun hzero => absurd hzero (h.rendered hframe)) fun hneg => (h.dead hneg).1
  | dragEnd =>
      obtain rfl := Option.some.inj hstep
      exact h.aside (fun hzero => ⟨(h.unrendered hzero).1, (h.unrendered hzero).2.2⟩)
        fun hneg => (h.dead hneg).1
  | drop target =>
      obtain ⟨frame, hframe, hstep⟩ := Option.bind_eq_some_iff.mp hstep
      split at hstep
      · next source target _ _ =>
          split at hstep
          · cases hstep
          · obtain rfl := Option.some.inj hstep
            -- `active = to` comes before the move, whose announcement paints
            have hactive := h.activate (screen_ne_blank hframe) (Int.natCast_nonneg target)
            exact (hactive.aside (fun hzero => absurd hzero (h.rendered hframe))
              fun hneg => (hactive.dead hneg).1).edited _
      · obtain rfl := Option.some.inj hstep
        exact h
  | askDelete index =>
      obtain ⟨frame, hframe, hstep⟩ := Option.bind_eq_some_iff.mp hstep
      obtain ⟨slide, -, hstep⟩ := Option.bind_eq_some_iff.mp hstep
      obtain rfl := Option.some.inj hstep
      exact h.asks hframe _
  | confirm =>
      simp only [StudioPage.step] at hstep
      split at hstep
      · next index quoted hdialog =>
          obtain rfl := Option.some.inj hstep
          exact ((h.closed hdialog page.adds).edited _).keepInside
      · cases hstep
  | askAdd =>
      obtain ⟨frame, hframe, hstep⟩ := Option.bind_eq_some_iff.mp hstep
      split at hstep
      · obtain rfl := Option.some.inj hstep
        exact h
      · obtain rfl := Option.some.inj hstep
        exact h.asks hframe _
  | write =>
      simp only [StudioPage.step] at hstep
      split at hstep
      · next render hdialog =>
          obtain rfl := Option.some.inj hstep
          exact h.written hdialog
      · cases hstep
  | browse =>
      simp only [StudioPage.step] at hstep
      split at hstep
      · next render hdialog =>
          obtain rfl := Option.some.inj hstep
          obtain ⟨hrenders, hactive⟩ := h.asked hdialog
          exact h.aside (fun hzero => absurd hzero hrenders)
            fun hneg => absurd hneg (Int.not_lt.mpr hactive)
      · cases hstep
  | pickStories picked =>
      simp only [StudioPage.step] at hstep
      split at hstep
      · next render hdialog =>
          obtain rfl := Option.some.inj hstep
          exact h.closed hdialog _
      · cases hstep
  | dismiss =>
      simp only [StudioPage.step] at hstep
      split at hstep
      · cases hstep
      · next hopen =>
          obtain rfl := Option.some.inj hstep
          obtain ⟨dialog, hdialog⟩ := Option.ne_none_iff_exists'.mp hopen
          exact h.closed hdialog _
  | added k carouselId slides =>
      obtain ⟨add, hadd, hstep⟩ := Option.bind_eq_some_iff.mp hstep
      obtain rfl := Option.some.inj hstep
      exact h.addLanded hadd
  | addFailed k =>
      obtain ⟨add, hadd, hstep⟩ := Option.bind_eq_some_iff.mp hstep
      obtain rfl := Option.some.inj hstep
      exact h.aside (fun hzero => absurd hzero (h.waited hadd)) fun hneg => (h.dead hneg).1
  | fire =>
      simp only [StudioPage.step] at hstep
      split at hstep
      · obtain rfl := Option.some.inj hstep
        exact ⟨⟨h.faithful.shows, h.faithful.head, h.faithful.fits⟩, h.unrendered, h.dead⟩
      · cases hstep
  | answered carouselId ok now =>
      simp only [StudioPage.step] at hstep
      split at hstep
      · obtain rfl := Option.some.inj hstep
        -- an answer announces, and changes no slide
        refine h.announce ?_
        obtain ⟨savedAt, hanswered⟩ := page.store.answered_eq carouselId ok now
        rw [hanswered]
        exact h.faithful.fits
      · obtain rfl := Option.some.inj hstep
        exact h
  | load carouselId slides =>
      obtain rfl := Option.some.inj hstep
      exact h.announce (SlideStore.load_fits _ _)
  | clear =>
      simp only [StudioPage.step] at hstep
      split at hstep
      · obtain rfl := Option.some.inj hstep
        exact h
      · obtain rfl := Option.some.inj hstep
        refine h.announce ?_
        unfold SlideStore.clear
        split
        · exact h.faithful.fits
        · exact fun slide hmem => absurd hmem List.not_mem_nil

end Inv

/-! ## §4. What `active` is about. -/

/-- The slide a dialog quotes is the one it would delete from such a deck. -/
def StudioPage.KeepsQuoted (page : StudioPage) (deck : List JsSlide) : Prop :=
  ∀ index quoted, page.dialog = some (.confirm index quoted) → deck[index]? = some quoted

/-- **The clicks are about the slide that is seen.** -/
structure StudioPage.Right (page : StudioPage) : Prop where
  /-- What the arrows step from is on the stage. -/
  onStage : ∀ frame, page.screen = .stage frame → page.active = frame.shown
  inRange : 0 ≤ page.active
  quoted : page.KeepsQuoted page.store.deck

/-- A tile of a view that is gone selects what is on the stage anyway. -/
def StudioPage.Selects (page : StudioPage) (store : SlideStore) (render index : Nat) : Prop :=
  render ≠ page.renders → (store.paint page.active).1 = index

/-- What keeps a step from parting the two. -/
def StudioPage.InSync (page : StudioPage) : StudioEvent → Prop
  -- a slide that is dropped where it does not move
  | .drop (some target) => ∀ frame source, page.frame = some frame → target < frame.total →
      page.dragged = some source → page.store.mutated (.move source target) = none →
      (target : Int) = page.active
  | .write => ∀ render deck, page.dialog = some (.choose render) →
      page.store.mutated .add = some deck →
      page.Selects (page.store.edit .add) render (deck.length - 1)
  | .added k carouselId slides => ∀ add, page.adds[k]? = some add →
      page.KeepsQuoted (slides.map (·.clean))
        ∧ ∀ index, add.first slides = some index →
          page.Selects (SlideStore.load carouselId slides) add.render index
  | .load _ slides => page.KeepsQuoted (slides.map (·.clean))
  | .clear => ∀ index quoted, page.dialog ≠ some (.confirm index quoted)
  | _ => True

section Right

variable {page page' : StudioPage} {event : StudioEvent} {store : SlideStore} {render index : Nat}
  {slides : List JsSlide}

theorem StudioPage.keepsQuoted_of_closed (h : page.dialog = none) (deck : List JsSlide) :
    page.KeepsQuoted deck := by
  intro index quoted hopen
  rw [h] at hopen
  cases hopen

theorem StudioPage.repaint_right (hactive : 0 ≤ page.active)
    (hquoted : page.KeepsQuoted page.store.deck) : page.repaint.Right where
  onStage := fun _ hstage => page.repaint_active hstage
  inRange := page.repaint_nonneg.mpr hactive
  quoted := hquoted

/-- **A change that the store announces** leaves the question that is open. -/
theorem StudioPage.Right.announce_iff (h : page.Right) (hinv : page.Inv) :
    (StudioPage.announce { page with store := store }).Right ↔ page.KeepsQuoted store.deck := by
  unfold StudioPage.announce
  split
  · next hrenders =>
      obtain ⟨-, hscreen, hdialog, -⟩ := hinv.unrendered hrenders
      constructor
      · exact fun hright => hright.quoted
      · exact fun hquoted => ⟨h.onStage, h.inRange, hquoted⟩
  -- the painting puts everything else right again
  · constructor
    · exact fun hright => hright.quoted
    · exact fun hquoted => repaint_right h.inRange hquoted

/-- Where there is a deck, it is on the stage. -/
theorem StudioPage.Right.staged (h : page.Right) (hinv : page.Inv) (hrenders : page.renders ≠ 0)
    (hlt : index < page.store.deck.length) : ∃ frame, page.screen = .stage frame := by
  have hshows := hinv.faithful.shows
  unfold StudioPage.Shows at hshows
  -- the other two screens need an empty deck or an index below zero
  cases hscreen : page.screen with
  | stage frame => exact ⟨frame, rfl⟩
  | empty =>
      rw [hscreen] at hshows
      rcases hshows with hzero | hdeck
      · exact absurd hzero hrenders
      · rw [hdeck] at hlt
        cases hlt
  | blank =>
      rw [hscreen] at hshows
      exact absurd hshows.2 (Int.not_lt.mpr h.inRange)

/-- **A view that is gone moves `active` under the one that is seen.** -/
theorem StudioPage.Right.show_iff (h : page.Right) (hinv : page.Inv) (hrenders : page.renders ≠ 0)
    (hlt : index < page.store.deck.length) :
    (page.show render index).Right ↔ (render ≠ page.renders → page.active = index) := by
  obtain ⟨frame, hframe⟩ := h.staged hinv hrenders hlt
  unfold StudioPage.show
  -- a show of an older render paints the detached stage, yet it sets the active slide
  by_cases hrender : render = page.renders
  · rw [if_pos hrender]
    refine iff_of_true ?_ fun hother => absurd hrender hother
    exact repaint_right (Int.natCast_nonneg index) h.quoted
  · rw [if_neg hrender, paint_inRange hlt]
    constructor
    · intro hright _
      exact (h.onStage frame hframe).trans (hright.onStage frame hframe).symm
    · intro hsame
      refine ⟨?_, Int.natCast_nonneg index, h.quoted⟩
      intro frame' hframe'
      exact (hsame hrender).symm.trans (h.onStage frame' hframe')

theorem StudioPage.Right.not_blank (h : page.Right) (hinv : page.Inv) : page.screen ≠ .blank := by
  intro hblank
  have hshows := hinv.faithful.shows
  unfold StudioPage.Shows at hshows
  rw [hblank] at hshows
  exact absurd hshows.2 (Int.not_lt.mpr h.inRange)

/-- What stands beside the page and the store, with the question that is open. -/
theorem StudioPage.Right.aside (h : page.Right) {visible : Bool} {dragged : Option Nat}
    {dialog : Option StudioDialog} {adds : List StoryAdd}
    (hquoted : ∀ index quoted, dialog = some (.confirm index quoted) →
      page.store.deck[index]? = some quoted) :
    StudioPage.Right { page with
      visible := visible, dragged := dragged, dialog := dialog, adds := adds } :=
  ⟨h.onStage, h.inRange, hquoted⟩

/-- An edit that changes the deck paints it anew. -/
theorem StudioPage.edited_right {action : DeckEditAction} {deck : List JsSlide}
    (hrenders : page.renders ≠ 0) (hactive : 0 ≤ page.active) (hdialog : page.dialog = none)
    (hdeck : page.store.mutated action = some deck) : (page.edited action).Right := by
  unfold StudioPage.edited StudioPage.announce
  rw [hdeck]
  show (if page.renders = 0 then _ else _ : StudioPage).Right
  rw [if_neg hrenders]
  exact repaint_right hactive (keepsQuoted_of_closed hdialog _)

theorem StudioPage.Right.edited (h : page.Right) (hrenders : page.renders ≠ 0)
    (hdialog : page.dialog = none) (action : DeckEditAction) : (page.edited action).Right := by
  cases hdeck : page.store.mutated action with
  | none =>
      unfold StudioPage.edited
      rw [hdeck]
      exact h
  | some deck => exact edited_right hrenders h.inRange hdialog hdeck

theorem StudioPage.Right.keepInside (h : page.Right) (hinv : page.Inv) :
    page.keepInside.Right := by
  unfold StudioPage.keepInside
  split
  · exact h
  · split
    · next hbeyond =>
        refine ⟨?_, le_max_left _ _, h.quoted⟩
        intro frame hframe
        -- there is a stage, and `active` is on it
        have hshows := hinv.faithful.shows
        unfold StudioPage.Shows at hshows
        rw [show page.screen = .stage frame from hframe] at hshows
        obtain ⟨slide, hof⟩ := hshows
        have hactive := h.onStage frame hframe
        have hlt := hof.shown_lt
        omega
    · exact h

/-- Selecting leaves the question that is open. -/
theorem StudioPage.select_quoted {index : Option Nat} (h : (page.select render index).Right) :
    page.KeepsQuoted page.store.deck := by
  have hquoted := h.quoted
  unfold StudioPage.select StudioPage.show at hquoted
  split at hquoted
  · exact hquoted
  · split at hquoted
    · exact hquoted
    · split at hquoted <;> exact hquoted

theorem StudioPage.Right.select_iff {found : Option Nat} (h : page.Right) (hinv : page.Inv)
    (hrenders : page.renders ≠ 0) (hlt : ∀ index, found = some index →
      index < page.store.deck.length) :
    (page.select render found).Right
      ↔ ∀ index, found = some index → render ≠ page.renders → page.active = index := by
  unfold StudioPage.select
  rw [if_neg (h.not_blank hinv)]
  -- a click outside the slides selects nothing
  cases found with
  | none => exact iff_of_true h nofun
  | some index =>
      show (page.show render index).Right ↔ _
      rw [h.show_iff hinv hrenders (hlt index rfl)]
      constructor
      · intro hselects found hfound
        obtain rfl := Option.some.inj hfound
        exact hselects
      · exact fun hselects => hselects index rfl

theorem StudioPage.announce_active (hrenders : page.renders ≠ 0) :
    page.announce.active = (page.store.paint page.active).1 := by
  unfold StudioPage.announce
  rw [if_neg hrenders]
  rfl

theorem StudioPage.announce_store (page : StudioPage) : page.announce.store = page.store := by
  unfold StudioPage.announce
  split <;> rfl

/-- **A slide written by hand** is on the stage, unless the tile is of an old view. -/
theorem StudioPage.Right.written_iff (h : page.Right) (hinv : page.Inv)
    (hdialog : page.dialog = some (.choose render)) :
    (page.written render).Right
      ↔ ∀ deck, page.store.mutated .add = some deck →
        page.Selects (page.store.edit .add) render (deck.length - 1) := by
  have hrenders := (hinv.asked hdialog).1
  have hclosed : StudioPage.Right { page with dialog := none } := h.aside nofun
  unfold StudioPage.written
  rw [(hclosed.edited hrenders rfl .add).select_iff ((hinv.closed hdialog page.adds).edited .add)
    (by rw [edited_renders]; exact hrenders)]
  -- a full store adds nothing: then there is nothing to select
  · cases hdeck : page.store.mutated .add with
    | none => exact iff_of_true nofun nofun
    | some deck =>
        have hedited : StudioPage.edited { page with dialog := none } .add
            = StudioPage.announce { page with dialog := none, store := page.store.edit .add } := by
          unfold StudioPage.edited
          rw [hdeck]
        have hactive : (StudioPage.announce
            { page with dialog := none, store := page.store.edit .add }).active
            = ((page.store.edit .add).paint page.active).1 := announce_active hrenders
        rw [hedited, announce_renders, hactive]
        constructor
        · intro hselects deck' hdeck'
          obtain rfl := Option.some.inj hdeck'
          exact hselects _ rfl
        · intro hselects index hindex
          obtain rfl := Option.some.inj hindex
          exact hselects deck rfl
  · intro index hindex
    obtain ⟨deck, hdeck, rfl⟩ := Option.map_eq_some_iff.mp hindex
    have hstore : (StudioPage.edited { page with dialog := none } .add).store.deck = deck := by
      unfold StudioPage.edited
      rw [hdeck]
      show (StudioPage.announce _).store.deck = deck
      rw [announce_store]
      exact (SlideStore.edit_deck hdeck).1
    rw [hstore]
    -- the new slide is the last, so that its index is in range
    have hpos : 0 < deck.length := by
      simp only [SlideStore.mutated] at hdeck
      split at hdeck
      · cases hdeck
      · obtain rfl := Option.some.inj hdeck
        rw [List.length_append]
        exact Nat.succ_pos _
    omega

/-- **Stories that come in** are on the stage, unless the tile is of an old view. -/
theorem StudioPage.Right.addLanded_iff {k : Nat} {add : StoryAdd} {carouselId : Nat}
    (h : page.Right) (hinv : page.Inv) (hadd : page.adds[k]? = some add) :
    (StudioPage.addLanded { page with adds := page.adds.eraseIdx k } add carouselId slides).Right
      ↔ page.KeepsQuoted (slides.map (·.clean))
        ∧ ∀ index, add.first slides = some index →
          page.Selects (SlideStore.load carouselId slides) add.render index := by
  have hrenders := hinv.waited hadd
  have hrest : StudioPage.Inv { page with adds := page.adds.eraseIdx k } :=
    hinv.aside (fun hzero => absurd hzero hrenders) fun hneg => (hinv.dead hneg).1
  have hrestRight : StudioPage.Right { page with adds := page.adds.eraseIdx k } :=
    h.aside h.quoted
  have hloaded := hrest.announce (SlideStore.load_fits carouselId slides)
  -- the load paints with `active` as it was; the first new story is selected after that
  have hkeeps : (StudioPage.announce { page with
      adds := page.adds.eraseIdx k, store := SlideStore.load carouselId slides }).Right
      ↔ page.KeepsQuoted (slides.map (·.clean)) := hrestRight.announce_iff hrest
  have hactive : (StudioPage.announce { page with
      adds := page.adds.eraseIdx k, store := SlideStore.load carouselId slides }).active
      = ((SlideStore.load carouselId slides).paint page.active).1 := announce_active hrenders
  unfold StudioPage.addLanded StudioPage.loaded
  have hlt : ∀ index, add.first slides = some index →
      index < (StudioPage.announce { page with
        adds := page.adds.eraseIdx k
        store := SlideStore.load carouselId slides }).store.deck.length := by
    intro index hindex
    obtain ⟨hlt, -⟩ := List.findIdx?_eq_some_iff_getElem.mp hindex
    rw [announce_store]
    show index < (slides.map (·.clean)).length
    rw [List.length_map]
    exact hlt
  constructor
  · intro hright
    -- selecting leaves the question open, so it was right before that too
    have hquoted : page.KeepsQuoted (slides.map (·.clean)) := by
      have hselected := select_quoted hright
      rw [announce_store] at hselected
      unfold StudioPage.announce at hselected
      split at hselected <;> exact hselected
    have hselects := ((hkeeps.mpr hquoted).select_iff hloaded
      (by rw [announce_renders]; exact hrenders) hlt).mp hright
    rw [announce_renders, hactive] at hselects
    exact ⟨hquoted, hselects⟩
  · intro hboth
    obtain ⟨hquoted, hselects⟩ := hboth
    refine ((hkeeps.mpr hquoted).select_iff hloaded
      (by rw [announce_renders]; exact hrenders) hlt).mpr ?_
    rw [announce_renders, hactive]
    exact hselects

theorem StudioPage.Right.dropped_iff {frame : Frame} {source target : Nat} (h : page.Right)
    (hinv : page.Inv) (hframe : page.frame = some frame) :
    (page.dropped source target).Right
      ↔ (page.store.mutated (.move source target) = none → (target : Int) = page.active) := by
  obtain ⟨-, hdialog, hscreen⟩ := frame_some hframe
  unfold StudioPage.dropped
  cases hmoved : page.store.mutated (.move source target) with
  | some deck =>
      refine iff_of_true ?_ nofun
      exact edited_right (hinv.rendered hframe) (Int.natCast_nonneg target) hdialog hmoved
  | none =>
      -- the store has said nothing
      have hsame : StudioPage.edited { page with active := target, dragged := none }
          (.move source target) = { page with active := target, dragged := none } := by
        unfold StudioPage.edited
        rw [hmoved]
      rw [hsame]
      constructor
      · intro hright _
        exact (hright.onStage frame hscreen).trans (h.onStage frame hscreen).symm
      · intro hactive
        refine ⟨?_, Int.natCast_nonneg target, h.quoted⟩
        intro frame' hframe'
        exact (hactive rfl).trans (h.onStage frame' hframe')

theorem StudioPage.Right.clicked {index : Int} (h : page.Right) (hindex : 0 ≤ index) :
    (page.show page.renders index).Right := by
  unfold StudioPage.show
  rw [if_pos rfl]
  exact repaint_right hindex h.quoted

/-- **A step parts the two exactly if it is not in sync.** -/
theorem StudioPage.step_right_iff (h : page.Right) (hinv : page.Inv)
    (hstep : page.step event = some page') : page'.Right ↔ page.InSync event := by
  cases event with
  | render =>
      simp only [StudioPage.step] at hstep
      split at hstep
      · cases hstep
      · obtain rfl := Option.some.inj hstep
        exact iff_of_true (repaint_right h.inRange h.quoted) trivial
  | leave =>
      obtain rfl := Option.some.inj hstep
      exact iff_of_true (h.aside h.quoted) trivial
  | type text =>
      obtain ⟨frame, hframe, hstep⟩ := Option.bind_eq_some_iff.mp hstep
      split at hstep
      · cases hstep
      · obtain rfl := Option.some.inj hstep
        obtain ⟨-, hdialog, hscreen⟩ := frame_some hframe
        refine iff_of_true ⟨?_, h.inRange, keepsQuoted_of_closed hdialog _⟩ trivial
        intro frame' hframe'
        obtain rfl := Screen.stage.inj hframe'
        exact h.onStage frame hscreen
  | pick index =>
      obtain ⟨frame, hframe, hstep⟩ := Option.bind_eq_some_iff.mp hstep
      split at hstep
      · cases hstep
      · obtain rfl := Option.some.inj hstep
        exact iff_of_true (h.clicked (Int.natCast_nonneg index)) trivial
  | prev =>
      obtain ⟨frame, hframe, hstep⟩ := Option.bind_eq_some_iff.mp hstep
      split at hstep
      · cases hstep
      · next henabled =>
          obtain rfl := Option.some.inj hstep
          obtain ⟨slide, hof⟩ := hinv.of_frame hframe
          -- the arrow is disabled at the first slide
          have hshown : frame.shown ≠ 0 := fun hzero => henabled (hof.prevDisabled.mpr hzero)
          have hactive := h.onStage frame (frame_some hframe).2.2
          exact iff_of_true (h.clicked (by omega)) trivial
  | next =>
      obtain ⟨frame, hframe, hstep⟩ := Option.bind_eq_some_iff.mp hstep
      split at hstep
      · cases hstep
      · obtain rfl := Option.some.inj hstep
        have := h.inRange
        exact iff_of_true (h.clicked (by omega)) trivial
  | dragStart index =>
      obtain ⟨frame, hframe, hstep⟩ := Option.bind_eq_some_iff.mp hstep
      split at hstep
      · cases hstep
      · obtain rfl := Option.some.inj hstep
        exact iff_of_true (h.aside h.quoted) trivial
  | dragEnd =>
      obtain rfl := Option.some.inj hstep
      exact iff_of_true (h.aside h.quoted) trivial
  | drop target =>
      obtain ⟨frame, hframe, hstep⟩ := Option.bind_eq_some_iff.mp hstep
      cases target with
      | none =>
          have hsame : page = page' := by
            cases hdragged : page.dragged <;> simpa [hdragged] using hstep
          exact iff_of_true (hsame ▸ h) trivial
      | some target =>
          cases hdragged : page.dragged with
          | none =>
              have hsame : page = page' := by simpa [hdragged] using hstep
              refine iff_of_true (hsame ▸ h) ?_
              intro _ source _ _ hsome
              rw [hdragged] at hsome
              cases hsome
          | some source =>
              simp only [hdragged] at hstep
              split at hstep
              · cases hstep
              · next hlt =>
                  obtain rfl := Option.some.inj hstep
                  rw [h.dropped_iff hinv hframe]
                  constructor
                  · intro hmoves _ source' _ _ hsource' hnone
                    rw [hdragged] at hsource'
                    cases hsource'
                    exact hmoves hnone
                  · intro hsync hnone
                    exact hsync frame source hframe (Nat.lt_of_not_le hlt) hdragged hnone
  | askDelete index =>
      obtain ⟨frame, hframe, hstep⟩ := Option.bind_eq_some_iff.mp hstep
      obtain ⟨slide, hslide, hstep⟩ := Option.bind_eq_some_iff.mp hstep
      obtain rfl := Option.some.inj hstep
      refine iff_of_true (h.aside ?_) trivial
      intro index' quoted hconfirm
      cases hconfirm
      exact hslide
  | confirm =>
      simp only [StudioPage.step] at hstep
      split at hstep
      · next index quoted hdialog =>
          obtain rfl := Option.some.inj hstep
          have hclosed : StudioPage.Right { page with dialog := none } := h.aside nofun
          have hrenders := (hinv.asked hdialog).1
          refine iff_of_true ?_ trivial
          exact (hclosed.edited hrenders rfl _).keepInside
            ((hinv.closed hdialog page.adds).edited _)
      · cases hstep
  | askAdd =>
      obtain ⟨frame, hframe, hstep⟩ := Option.bind_eq_some_iff.mp hstep
      split at hstep
      · obtain rfl := Option.some.inj hstep
        exact iff_of_true h trivial
      · obtain rfl := Option.some.inj hstep
        exact iff_of_true (h.aside nofun) trivial
  | write =>
      simp only [StudioPage.step] at hstep
      split at hstep
      · next render hdialog =>
          obtain rfl := Option.some.inj hstep
          rw [h.written_iff hinv hdialog]
          constructor
          · intro hselects render' deck hdialog' hdeck
            rw [hdialog] at hdialog'
            cases hdialog'
            exact hselects deck hdeck
          · intro hsync deck hdeck
            exact hsync render deck hdialog hdeck
      · cases hstep
  | browse =>
      simp only [StudioPage.step] at hstep
      split at hstep
      · obtain rfl := Option.some.inj hstep
        exact iff_of_true (h.aside nofun) trivial
      · cases hstep
  | pickStories picked =>
      simp only [StudioPage.step] at hstep
      split at hstep
      · obtain rfl := Option.some.inj hstep
        exact iff_of_true (h.aside nofun) trivial
      · cases hstep
  | dismiss =>
      simp only [StudioPage.step] at hstep
      split at hstep
      · cases hstep
      · obtain rfl := Option.some.inj hstep
        exact iff_of_true (h.aside nofun) trivial
  | added k carouselId slides =>
      obtain ⟨add, hadd, hstep⟩ := Option.bind_eq_some_iff.mp hstep
      obtain rfl := Option.some.inj hstep
      rw [h.addLanded_iff hinv hadd]
      constructor
      · intro hboth add' hadd'
        rw [hadd] at hadd'
        cases hadd'
        exact hboth
      · exact fun hsync => hsync add hadd
  | addFailed k =>
      obtain ⟨add, -, hstep⟩ := Option.bind_eq_some_iff.mp hstep
      obtain rfl := Option.some.inj hstep
      exact iff_of_true (h.aside h.quoted) trivial
  | fire =>
      simp only [StudioPage.step] at hstep
      split at hstep
      · obtain rfl := Option.some.inj hstep
        exact iff_of_true ⟨h.onStage, h.inRange, h.quoted⟩ trivial
      · cases hstep
  | answered carouselId ok now =>
      simp only [StudioPage.step] at hstep
      split at hstep
      · obtain rfl := Option.some.inj hstep
        refine iff_of_true ((h.announce_iff hinv).mpr ?_) trivial
        obtain ⟨savedAt, hanswered⟩ := page.store.answered_eq carouselId ok now
        rw [hanswered]
        exact h.quoted
      · obtain rfl := Option.some.inj hstep
        exact iff_of_true h trivial
  | load carouselId slides =>
      obtain rfl := Option.some.inj hstep
      exact h.announce_iff hinv
  | clear =>
      simp only [StudioPage.step] at hstep
      split at hstep
      · next hdeck =>
          obtain rfl := Option.some.inj hstep
          refine iff_of_true h ?_
          intro index quoted hconfirm
          have hquoted := h.quoted index quoted hconfirm
          rw [hdeck] at hquoted
          cases hquoted
      · next hdeck =>
          obtain rfl := Option.some.inj hstep
          rw [h.announce_iff hinv, show page.store.clear.deck = [] by
            unfold SlideStore.clear
            rw [if_neg hdeck]]
          constructor
          · intro hquoted index quoted hconfirm
            cases hquoted index quoted hconfirm
          · intro hclosed index quoted hconfirm
            exact absurd hconfirm (hclosed index quoted)

/-- A step that is not taken is in sync. -/
theorem StudioPage.step_stuck (hstuck : page.step event = none) : page.InSync event := by
  cases event with
  -- of the events that cannot happen, only those that `InSync` has a condition on
  | drop target =>
      cases target with
      | none => trivial
      | some target =>
          intro frame source hframe hlt hdragged
          simp [StudioPage.step, hframe, hdragged, Nat.not_le.mpr hlt] at hstuck
  | write =>
      intro render deck hdialog
      simp [StudioPage.step, hdialog] at hstuck
  | added k carouselId slides =>
      intro add hadd
      simp [StudioPage.step, hadd] at hstuck
  | load carouselId slides => cases hstuck
  | clear =>
      simp only [StudioPage.step] at hstuck
      split at hstuck <;> cases hstuck
  | _ => trivial

end Right

/-! ## §5. Below zero. -/

section Dead

variable {page page' : StudioPage} {event : StudioEvent} {store : SlideStore}

theorem StudioPage.announce_neg (h : page.active < 0) : page.announce.active < 0 := by
  unfold StudioPage.announce
  split
  · exact h
  · have := page.repaint_nonneg
    omega

/-- Stories that come in have no `paint` to select them in. -/
theorem StudioPage.Inv.addLanded_neg {k : Nat} {add : StoryAdd} {carouselId : Nat}
    {slides : List JsSlide} (h : page.Inv) (hadd : page.adds[k]? = some add)
    (hneg : page.active < 0) :
    (StudioPage.addLanded { page with adds := page.adds.eraseIdx k } add carouselId
      slides).active < 0 := by
  have hrenders := h.waited hadd
  have hrest : StudioPage.Inv { page with adds := page.adds.eraseIdx k } :=
    h.aside (fun hzero => absurd hzero hrenders) fun hneg => (h.dead hneg).1
  have hloaded := hrest.announce (SlideStore.load_fits carouselId slides)
  unfold StudioPage.addLanded StudioPage.loaded
  generalize hpage : StudioPage.announce { page with
    adds := page.adds.eraseIdx k, store := SlideStore.load carouselId slides } = landed at hloaded
  have hnegative : landed.active < 0 := by
    rw [← hpage]
    exact announce_neg hneg
  unfold StudioPage.select
  split
  · exact hnegative
  · next hblank =>
      have hshows := hloaded.faithful.shows
      unfold StudioPage.Shows at hshows
      cases hscreen : landed.screen with
      | blank => exact absurd hscreen hblank
      | stage frame => exact absurd hscreen ((hloaded.dead hnegative).2 frame)
      | empty =>
          -- there is no slide to select
          rw [hscreen] at hshows
          have hslides : slides = [] := by
            rcases hshows with hzero | hdeck
            · rw [← hpage, announce_renders] at hzero
              exact absurd hzero hrenders
            · rw [← hpage, announce_store] at hdeck
              exact List.map_eq_nil_iff.mp hdeck
          rw [hslides]
          exact hnegative

/-- **Nothing brings `active` back.** -/
theorem StudioPage.step_dead (hinv : page.Inv) (hneg : page.active < 0)
    (hstep : page.step event = some page') : page'.active < 0 := by
  obtain ⟨hdialog, hstage⟩ := hinv.dead hneg
  have hframe : page.frame = none := by
    unfold StudioPage.frame
    split
    · next frame _ _ hscreen => exact absurd hscreen (hstage frame)
    · rfl
  cases event with
  | render =>
      simp only [StudioPage.step] at hstep
      split at hstep
      · cases hstep
      · obtain rfl := Option.some.inj hstep
        have := StudioPage.repaint_nonneg
          { page with renders := page.renders + 1, visible := true }
        exact Int.not_le.mp fun h => absurd (this.mp h) (Int.not_le.mpr hneg)
  | leave =>
      obtain rfl := Option.some.inj hstep
      exact hneg
  | dragEnd =>
      obtain rfl := Option.some.inj hstep
      exact hneg
  | added k carouselId slides =>
      obtain ⟨add, hadd, hstep⟩ := Option.bind_eq_some_iff.mp hstep
      obtain rfl := Option.some.inj hstep
      exact hinv.addLanded_neg hadd hneg
  | addFailed k =>
      obtain ⟨add, -, hstep⟩ := Option.bind_eq_some_iff.mp hstep
      obtain rfl := Option.some.inj hstep
      exact hneg
  | fire =>
      simp only [StudioPage.step] at hstep
      split at hstep
      · obtain rfl := Option.some.inj hstep
        exact hneg
      · cases hstep
  | answered carouselId ok now =>
      simp only [StudioPage.step] at hstep
      split at hstep
      · obtain rfl := Option.some.inj hstep
        exact announce_neg hneg
      · obtain rfl := Option.some.inj hstep
        exact hneg
  | load carouselId slides =>
      obtain rfl := Option.some.inj hstep
      exact announce_neg hneg
  | clear =>
      simp only [StudioPage.step] at hstep
      split at hstep
      · obtain rfl := Option.some.inj hstep
        exact hneg
      · obtain rfl := Option.some.inj hstep
        exact announce_neg hneg
  -- there is nothing to click on
  | _ => simp [StudioPage.step, hframe, hdialog] at hstep

end Dead

/-! ## §6. Runs. -/

theorem StudioPage.start_inv (carouselId : Option Nat) (slides : List JsSlide) :
    (StudioPage.start carouselId slides).Inv where
  faithful := by
    refine ⟨Or.inl rfl, Or.inl rfl, ?_⟩
    intro slide hmem
    obtain ⟨raw, -, rfl⟩ := List.mem_map.mp hmem
    exact JsContent.clean_fits _
  unrendered := fun _ => ⟨rfl, rfl, rfl, rfl⟩
  dead := fun hneg => absurd hneg (Int.lt_irrefl 0)

theorem StudioPage.start_right (carouselId : Option Nat) (slides : List JsSlide) :
    (StudioPage.start carouselId slides).Right where
  onStage := by
    intro frame hframe
    cases hframe
  inRange := Int.le_refl 0
  quoted := StudioPage.keepsQuoted_of_closed rfl _

/-- **THE CANVAS SHOWS THE DECK**, over every run of the page: of clicks, typing,
drags, dialogs, renders, and whatever the server answers meanwhile.  What it shows
is about the slide that the clicks are about exactly as long as the steps are in
sync; and once `paint` has raised, there is no stage again before a reload. -/
theorem canvas_view_iff (carouselId : Option Nat) (slides : List JsSlide)
    (events : List StudioEvent) :
    (∀ page, Run StudioPage.step (StudioPage.start carouselId slides) events page →
        page.Faithful)
      ∧ (Throughout StudioPage.step StudioPage.Right (StudioPage.start carouselId slides) events
        ↔ Along StudioPage.step StudioPage.InSync (StudioPage.start carouselId slides) events)
      ∧ ∀ page, Run StudioPage.step (StudioPage.start carouselId slides) events page →
        page.screen = .blank → ∀ more page', Run StudioPage.step page more page' →
          ∀ frame, page'.screen ≠ .stage frame := by
  have hstart := StudioPage.start_inv carouselId slides
  have hinv : ∀ page, Run StudioPage.step (StudioPage.start carouselId slides) events page →
      page.Inv := by
    intro page hrun
    exact hrun.invariant (fun _ _ _ h hstep => StudioPage.step_inv h hstep) hstart
  refine ⟨?_, ?_, ?_⟩
  · intro page hrun
    exact (hinv page hrun).faithful
  · apply throughout_iff_along (J := StudioPage.Inv)
    · intro page event page' h hstep
      exact StudioPage.step_inv h hstep
    · intro page event page' h hright hstep
      exact StudioPage.step_right_iff hright h hstep
    · intro page event hstuck
      exact StudioPage.step_stuck hstuck
    · exact hstart
    · exact StudioPage.start_right carouselId slides
  · intro page hrun hblank more page' hmore frame
    -- a blank page is one whose `paint` raised, which takes a negative `active`
    have hneg : page.active < 0 := by
      have hshows := (hinv page hrun).faithful.shows
      unfold StudioPage.Shows at hshows
      rw [hblank] at hshows
      exact hshows.2
    -- and no step brings a negative `active` back
    have hdead : page'.Inv ∧ page'.active < 0 := by
      refine hmore.invariant (I := fun page => page.Inv ∧ page.active < 0) ?_
        ⟨hinv page hrun, hneg⟩
      intro page event page' h hstep
      exact ⟨StudioPage.step_inv h.1 hstep, StudioPage.step_dead h.1 h.2 hstep⟩
    exact (hdead.1.dead hdead.2).2 frame

/-- The first of two slides is dropped on itself while the second is on the stage:
"Previous" then steps below zero. -/
example : (exec StudioPage.step (StudioPage.start none [blankSlide, blankSlide])
    [.render, .next, .dragStart 0, .drop (some 0), .prev]).map (·.screen) = some .blank := by
  decide

end Feedcast
