/-
  Feedcast.Static.Slides — the deck store of the browser
  (`static/js/slides.js`).

  The deck on the canvas, the id it saves to, and the debounce timer.  Slide
  text is a JavaScript string, a list of UTF-16 units that `slice` may cut in
  the middle of a character.

  Left out: `sessionStorage`, which `persist()` writes and `hydrate()` reads once,
  at module load, so the store here begins as on a first visit and a reload is no
  step of it; the one-shot notice; the listeners.
-/
import Feedcast.Lib.Traverse
import Feedcast.Lib.Utf16
import Feedcast.Schemas.Carousel

namespace Feedcast

open Feedcast.Lib

/-! ## §1. Slides. -/

/-- A JavaScript string. -/
abbrev JsStr := List UInt16

/-- What the autosave sends of a slide. -/
structure JsContent where
  kind : SlideKind
  storyId : Option Str
  text : JsStr
  clipped : Bool
  deriving Repr, DecidableEq

def SlideContent.toJs (content : SlideContent) : JsContent where
  kind := content.kind
  storyId := content.storyId
  text := Utf16.encode content.text
  clipped := content.clipped

/-- A slide of the store. -/
structure JsSlide where
  content : JsContent
  sourceName : Option Str := none
  url : Option Str := none
  category : Option Str := none
  score : Option ℚ := none
  deriving Repr, DecidableEq

/-- A slide of a response, once its JSON is parsed. -/
def Slide.toJs (slide : Slide) : JsSlide where
  content := slide.content.toJs
  sourceName := slide.sourceName
  url := slide.url
  category := slide.category
  score := slide.score

/-- `TEXT_MAX`. -/
def textMax : Nat := 120

/-- `MAX_SLIDES`. -/
def storeMaxSlides : Nat := 10

def JsContent.clean (content : JsContent) : JsContent :=
  { content with text := content.text.take textMax }

/-- `clean`. -/
def JsSlide.clean (slide : JsSlide) : JsSlide := { slide with content := slide.content.clean }

theorem JsContent.clean_of_fits {content : JsContent} (h : content.text.length ≤ textMax) :
    content.clean = content := by
  unfold JsContent.clean
  rw [List.take_of_length_le h]

theorem JsContent.clean_fits (content : JsContent) : content.clean.text.length ≤ textMax :=
  List.length_take_le _ _

/-! ## §2. The store. -/

structure SlideStore where
  deck : List JsSlide := []
  carouselId : Option Nat := none
  savedAt : Option Time := none
  /-- The debounce timer is running. -/
  saveTimer : Bool := false
  deriving Repr, DecidableEq

/-- `scheduleSave`, which is all of `persist` but the cache. -/
def SlideStore.scheduleSave (store : SlideStore) : SlideStore :=
  if store.carouselId = none then store else { store with saveTimer := true }

/-- An index into the deck, unless it is out of range. -/
def SlideStore.slot (store : SlideStore) (index : Int) : Option Nat :=
  if 0 ≤ index ∧ index < store.deck.length then some index.toNat else none

/-- What the canvas can do to the deck. -/
inductive DeckEditAction where
  | add
  | setText (index : Int) (text : JsStr)
  | remove (index : Int)
  | move (source target : Int)
  deriving Repr, DecidableEq

/-- What `add` appends. -/
def blankSlide : JsSlide :=
  { content := { kind := .story, storyId := none, text := [], clipped := false } }

/-- What `setText` makes of a slide.  The badge that it was cut short goes. -/
def JsSlide.withText (slide : JsSlide) (text : JsStr) : JsSlide :=
  { slide with content := { slide.content with text := text.take textMax, clipped := false } }

/-- The deck a mutation leaves; `none` when it returns before it has changed
anything. -/
def SlideStore.mutated (store : SlideStore) : DeckEditAction → Option (List JsSlide)
  | .add =>
      if storeMaxSlides ≤ store.deck.length then none
      else some (store.deck ++ [blankSlide.clean])
  | .setText index text => do
      let i ← store.slot index
      return store.deck.modify i (·.withText text)
  | .remove index => do
      let i ← store.slot index
      return store.deck.eraseIdx i
  | .move source target => do
      if source = target then none
      let i ← store.slot source
      let j ← store.slot target
      let slide ← store.deck[i]?
      return (store.deck.eraseIdx i).insertIdx j slide

/-- `add`, `setText`, `remove` and `move`: a mutation ends in `persist`. -/
def SlideStore.edit (store : SlideStore) (action : DeckEditAction) : SlideStore :=
  match store.mutated action with
  | none => store
  | some deck => SlideStore.scheduleSave { store with deck := deck }

/-- `save` once it is answered.  The stamp is guarded: the deck may have been
swapped meanwhile. -/
def SlideStore.answered (store : SlideStore) (id : Nat) (ok : Bool) (now : Time) : SlideStore :=
  if ok = true ∧ store.carouselId = some id then { store with savedAt := some now } else store

/-- `load`. -/
def SlideStore.load (id : Nat) (slides : List JsSlide) : SlideStore where
  deck := slides.map (·.clean)
  carouselId := some id

/-- What the editor sees, as the autosave sends it. -/
def SlideStore.contents (store : SlideStore) : List JsContent := store.deck.map (·.content)

/-- `room`. -/
def SlideStore.room (store : SlideStore) : Nat := storeMaxSlides - store.deck.length

/-- **An edit of an open deck schedules a save, or is none.** -/
theorem SlideStore.edit_eq {store : SlideStore} {id : Nat} (hid : store.carouselId = some id)
    (action : DeckEditAction) :
    store.edit action
      = match store.mutated action with
        | none => store
        | some deck => { store with deck := deck, saveTimer := true } := by
  unfold SlideStore.edit SlideStore.scheduleSave
  cases store.mutated action with
  | none => rfl
  | some deck => simp [hid]

/-- An answer touches the stamp only. -/
theorem SlideStore.answered_eq (store : SlideStore) (id : Nat) (ok : Bool) (now : Time) :
    ∃ savedAt, store.answered id ok now = { store with savedAt := savedAt } := by
  unfold SlideStore.answered
  split
  · exact ⟨some now, rfl⟩
  · exact ⟨store.savedAt, rfl⟩

/-! ## §3. On the wire. -/

/-- `SlideWrite` of a slide of the body; text that is not well formed, or too
long, is refused. -/
def JsContent.toWrite (content : JsContent) : Option SlideWrite := do
  let text ← Utf16.decode content.text
  if h : (∀ id ∈ content.storyId, IsStoryId id) ∧ text.length ≤ slideTextCap then
    some { kind := content.kind, storyId := content.storyId, text := text
           clipped := content.clipped, storyId_valid := h.1, text_le := h.2 }
  else none

theorem JsContent.toWrite_content {content : JsContent} {w : SlideWrite}
    (h : content.toWrite = some w) : w.content.toJs = content := by
  obtain ⟨text, htext, hw⟩ := Option.bind_eq_some_iff.mp h
  split at hw
  · cases hw
    unfold SlideWrite.content SlideContent.toJs
    rw [Utf16.encode_of_decode htext]
  · cases hw

/-- `DeckWrite` of a body. -/
def parseDeck (settings : Settings) (body : List JsContent) : Option (DeckWrite settings) := do
  let slides ← body.mapM JsContent.toWrite
  if h : (slides.length : Int) ≤ settings.maxSlides then
    some { slides := slides, slides_le := h }
  else none

/-- The contents of the deck a request writes, as the browser sent them. -/
def DeckWrite.contents {settings : Settings} (data : DeckWrite settings) : List JsContent :=
  data.slides.map fun slide => slide.content.toJs

/-- **What an accepted body writes is what the browser sent.** -/
theorem parseDeck_contents {settings : Settings} {body : List JsContent}
    {data : DeckWrite settings} (h : parseDeck settings body = some data) :
    data.contents = body := by
  obtain ⟨slides, hslides, hdata⟩ := Option.bind_eq_some_iff.mp h
  split at hdata
  · cases hdata
    have hmap := map_of_mapM (h := id) (fun _ _ hw => JsContent.toWrite_content hw) hslides
    rw [List.map_id] at hmap
    exact hmap
  · cases hdata

end Feedcast
