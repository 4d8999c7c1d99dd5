/-
  Feedcast.Schemas.Carousel — the payloads of the carousel endpoints
  (`schemas/carousel.py`).

  A payload is a value its schema has accepted.  The upload limits are derived
  from the settings, so the payloads that have one are typed by them.
-/
import Feedcast.Core.Config
import Feedcast.Db.Models

namespace Feedcast

/-! ## §1. Limits. -/

/-- `SLIDE_TEXT_CAP`. -/
def slideTextCap : Nat := 2000

/-- `MAX_SLIDES`: intro and CTA on top of the story slides. -/
def Settings.maxSlides (settings : Settings) : Int := settings.carouselMaxStories + 2

/-- `MAX_ENCODED_IMAGE`. -/
def Settings.maxEncodedImage (settings : Settings) : Nat :=
  settings.zipMaxBytesPerImage * 4 / 3 + 64

/-- `MAX_STORY_IDS`. -/
def Settings.maxStoryIds (settings : Settings) : Int := settings.carouselMaxStories * 4

/-- `StoryId`. -/
abbrev IsStoryId (id : Str) : Prop := 1 ≤ id.length ∧ id.length ≤ 128

/-! ## §2. Requests. -/

/-- The editor's selection: the body of a create and of an add. -/
structure CarouselRequest (settings : Settings) where
  storyIds : List Str
  sort : Option StorySort := none
  storyIds_valid : ∀ id ∈ storyIds, IsStoryId id := by decide
  storyIds_ne : storyIds ≠ [] := by decide
  storyIds_le : (storyIds.length : Int) ≤ settings.maxStoryIds := by decide

/-- One slide on its way back from the canvas. -/
structure SlideWrite where
  kind : SlideKind
  storyId : Option Str := none
  text : Str
  clipped : Bool := false
  storyId_valid : ∀ id ∈ storyId, IsStoryId id := by decide
  text_le : text.length ≤ slideTextCap := by decide
  deriving DecidableEq

def SlideWrite.content (slide : SlideWrite) : SlideContent where
  kind := slide.kind
  storyId := slide.storyId
  text := slide.text
  clipped := slide.clipped

/-- The whole deck, every save. -/
structure DeckWrite (settings : Settings) where
  slides : List SlideWrite
  slides_le : (slides.length : Int) ≤ settings.maxSlides := by decide

/-- Rendered slides on their way back to be bundled. -/
structure ZipRequest (settings : Settings) where
  images : List Str
  images_valid : ∀ image ∈ images,
    1 ≤ image.length ∧ image.length ≤ settings.maxEncodedImage := by decide
  images_ne : images ≠ [] := by decide
  images_le : (images.length : Int) ≤ settings.maxSlides := by decide

/-! ## §3. Responses. -/

/-- One slide as the canvas first receives it. -/
structure Slide where
  kind : SlideKind
  storyId : Option Str
  text : Str
  clipped : Bool
  sourceName : Option Str
  url : Option Str := none
  category : Option Str := none
  score : Option ℚ := none
  deriving Repr, DecidableEq

def Slide.content (slide : Slide) : SlideContent where
  kind := slide.kind
  storyId := slide.storyId
  text := slide.text
  clipped := slide.clipped

/-- `SlideWrite` accepts the slide. -/
abbrev Slide.Writable (slide : Slide) : Prop :=
  (∀ id ∈ slide.storyId, IsStoryId id) ∧ slide.text.length ≤ slideTextCap

/-- `SlideWrite(…)` of a slide the server built; `none` is a `ValidationError`. -/
def Slide.toWrite (slide : Slide) : Option SlideWrite :=
  if h : slide.Writable then
    some { kind := slide.kind, storyId := slide.storyId, text := slide.text
           clipped := slide.clipped, storyId_valid := h.1, text_le := h.2 }
  else none

/-- **What is written of a slide is what the editor sees of it.** -/
theorem Slide.toWrite_content {slide : Slide} {w : SlideWrite} (h : slide.toWrite = some w) :
    w.content = slide.content := by
  unfold Slide.toWrite at h
  split at h
  · cases h
    rfl
  · cases h

theorem Slide.toWrite_isSome {slide : Slide} : slide.toWrite.isSome ↔ slide.Writable := by
  unfold Slide.toWrite
  split
  · next h => exact iff_of_true rfl h
  · next h => exact iff_of_false (by simp) h

structure CarouselResponse where
  id : Nat
  slides : List Slide
  missingIds : List Str
  state : Str
  createdAt : Time
  lastEditedAt : Option Time
  lastDownloadedAt : Option Time
  deriving Repr, DecidableEq

end Feedcast
