/-
  Feedcast.Static.Studio — the canvas in the browser (`static/js/studio.js`).

  One slide of the deck is on the stage, with the field that edits it; the strip
  shows all of them.  `paint` draws everything anew on every change of the deck
  that the store announces, and typing is the one change that it does not.

  A canvas element is the slide it was last drawn from.  The zip, the status line
  and the notice are left out, and of the inspector what only reads the slide it
  was painted with.
-/
import Feedcast.Static.SlideCanvas

namespace Feedcast

open Feedcast.Lib

/-! ## §1. Painting. -/

/-- What `paint` puts on the page, and what typing changes of it. -/
structure Frame where
  /-- The strip: the slides its canvases are drawn from. -/
  thumbs : List JsSlide
  /-- The index that the stage, the field and the arrows were made for. -/
  shown : Nat
  /-- The slide that was on the stage at the time. -/
  slide : JsSlide
  preview : JsSlide
  /-- The value of the field. -/
  field : JsStr
  /-- "n / 120". -/
  count : Nat
  /-- "clipped headline". -/
  warned : Bool
  /-- "Slide … of n". -/
  total : Nat
  prevDisabled : Bool
  nextDisabled : Bool
  deriving Repr, DecidableEq

inductive Screen where
  /-- "No slides left." -/
  | empty
  /-- `paint` has cleared the page and raised. -/
  | blank
  | stage (frame : Frame)
  deriving Repr, DecidableEq

def stageFrame (deck : List JsSlide) (active : Nat) (slide : JsSlide) : Frame where
  thumbs := deck
  shown := active
  slide := slide
  preview := slide
  field := slide.content.text
  count := slide.content.text.length
  warned := slide.content.clipped
  total := deck.length
  prevDisabled := active = 0
  nextDisabled := active + 1 = deck.length

/-- `if (active >= deck.length) active = deck.length - 1`. -/
def SlideStore.inDeck (store : SlideStore) (active : Int) : Int :=
  if store.deck.length ≤ active then store.deck.length - 1 else active

/-- `paint`: what it leaves of `active`, and the page. -/
def SlideStore.paint (store : SlideStore) (active : Int) : Int × Screen :=
  if store.deck = [] then (active, .empty)
  else
    let active := store.inDeck active
    match (store.slot active).bind fun i => (store.deck[i]?).map (stageFrame store.deck i) with
    | some frame => (active, .stage frame)
    -- `deck[active]` is `undefined`, and `drawSlide` reads its kind
    | none => (active, .blank)

/-- The handler of `input`: both canvases from one edited copy. -/
def Frame.typed (frame : Frame) (text : JsStr) : Frame :=
  let edited := { frame.slide with content := { frame.slide.content with text := text } }
  { frame with
    thumbs := frame.thumbs.set frame.shown edited
    preview := edited
    field := text
    count := text.length }

/-! ## §2. The page. -/

/-- A dialog is modal: under it the page takes no clicks. -/
inductive StudioDialog where
  /-- `deleteSlide`, and the slide it quotes. -/
  | confirm (index : Nat) (quoted : JsSlide)
  /-- `chooseHowToAdd`, from the view of that render. -/
  | choose (render : Nat)
  /-- `openStoryPicker`. -/
  | picker (render : Nat)
  deriving Repr, DecidableEq

/-- A `POST /carousels/{id}/stories` that is not answered yet. -/
structure StoryAdd where
  render : Nat
  picked : List Str
  deriving Repr, DecidableEq

structure StudioPage where
  store : SlideStore
  active : Int := 0
  /-- How often `renderStudio` has run: its closures paint the view they were made in. -/
  renders : Nat := 0
  /-- The canvas is the view on the page. -/
  visible : Bool := false
  screen : Screen := .empty
  /-- The header: how many slides, and when they were saved. -/
  head : Nat × Option Time := (0, none)
  /-- `from`, of the strip on the page. -/
  dragged : Option Nat := none
  dialog : Option StudioDialog := none
  adds : List StoryAdd := []
  deriving Repr, DecidableEq

/-- A page that has just loaded, with the deck it found in the tab. -/
def StudioPage.start (carouselId : Option Nat) (slides : List JsSlide) : StudioPage where
  store := { deck := slides.map (·.clean), carouselId := carouselId }

/-- The page after `paint`.  The strip is a new one. -/
def StudioPage.repaint (page : StudioPage) : StudioPage :=
  { page with
    active := (page.store.paint page.active).1
    screen := (page.store.paint page.active).2
    head := (page.store.deck.length, page.store.savedAt)
    dragged := none }

/-- `announce`, with `paint` for the one listener. -/
def StudioPage.announce (page : StudioPage) : StudioPage :=
  if page.renders = 0 then page else page.repaint

/-- `show`, of the view of that render.  An old view paints a page that is gone. -/
def StudioPage.show (page : StudioPage) (render : Nat) (index : Int) : StudioPage :=
  if render = page.renders then StudioPage.repaint { page with active := index }
  else { page with active := (page.store.paint index).1 }

/-- What the strip and the stage of the page take clicks with. -/
def StudioPage.frame (page : StudioPage) : Option Frame :=
  match page.visible, page.dialog, page.screen with
  | true, none, .stage frame => some frame
  | _, _, _ => none

/-- `clear` of the store. -/
def SlideStore.clear (store : SlideStore) : SlideStore :=
  if store.deck = [] then store
  else { store with deck := [], carouselId := none, saveTimer := false }

/-! ## §3. What happens to it. -/

inductive StudioEvent where
  /-- The route is the canvas: `renderStudio`. -/
  | render
  | leave
  | type (text : JsStr)
  /-- A click on a thumbnail. -/
  | pick (index : Nat)
  | prev
  | next
  | dragStart (index : Nat)
  | dragEnd
  /-- On a thumbnail, or on the tile that adds. -/
  | drop (target : Option Nat)
  | askDelete (index : Nat)
  /-- "Delete slide". -/
  | confirm
  | askAdd
  /-- "Write one myself". -/
  | write
  /-- "Pick from the news feed". -/
  | browse
  | pickStories (picked : List Str)
  /-- Whatever dialog is open is closed. -/
  | dismiss
  | added (k : Nat) (carouselId : Nat) (slides : List JsSlide)
  | addFailed (k : Nat)
  /-- The debounce timer: `save` sends the deck. -/
  | fire
  /-- A PUT is answered. -/
  | answered (carouselId : Nat) (ok : Bool) (now : Time)
  /-- The Gallery has opened a carousel, or Discover has built one. -/
  | load (carouselId : Nat) (slides : List JsSlide)
  /-- The Gallery has deleted the carousel that is open. -/
  | clear
  deriving Repr, DecidableEq

/-- A mutation of the store, and its announcement. -/
def StudioPage.edited (page : StudioPage) (action : DeckEditAction) : StudioPage :=
  match page.store.mutated action with
  | none => page
  | some _ => StudioPage.announce { page with store := page.store.edit action }

/-- The `drop` listener, once it has found the thumbnail.  `active` moves in any
case, and the store announces nothing for a slide that stays where it is. -/
def StudioPage.dropped (page : StudioPage) (source target : Nat) : StudioPage :=
  StudioPage.edited { page with active := target, dragged := none } (.move source target)

/-- "Keep the selection inside the deck it just shrank", unless `paint` has raised. -/
def StudioPage.keepInside (page : StudioPage) : StudioPage :=
  if page.screen = .blank then page
  else if page.store.deck.length ≤ page.active then
    { page with active := max 0 ((page.store.deck.length : Int) - 1) }
  else page

/-- `deleteSlide` after the answer. -/
def StudioPage.deleted (page : StudioPage) (index : Nat) : StudioPage :=
  (StudioPage.edited { page with dialog := none } (.remove index)).keepInside

/-- The tile that adds, once `addStory` has said which slide is new.  A `paint`
that raises has ended it before. -/
def StudioPage.select (page : StudioPage) (render : Nat) (index : Option Nat) : StudioPage :=
  if page.screen = .blank then page
  else
    match index with
    | none => page
    | some index => page.show render index

/-- `slides.add()`. -/
def StudioPage.written (page : StudioPage) (render : Nat) : StudioPage :=
  (StudioPage.edited { page with dialog := none } .add).select render
    ((page.store.mutated .add).map fun deck => deck.length - 1)

/-- `slides.load`, from anywhere. -/
def StudioPage.loaded (page : StudioPage) (carouselId : Nat) (slides : List JsSlide) :
    StudioPage :=
  StudioPage.announce { page with store := SlideStore.load carouselId slides }

/-- The first slide of a story that was picked. -/
def StoryAdd.first (add : StoryAdd) (slides : List JsSlide) : Option Nat :=
  slides.findIdx? fun slide => slide.content.storyId.any fun id => id ∈ add.picked

/-- The rest of `addStory`. -/
def StudioPage.addLanded (page : StudioPage) (add : StoryAdd) (carouselId : Nat)
    (slides : List JsSlide) : StudioPage :=
  (page.loaded carouselId slides).select add.render (add.first slides)

def StudioPage.step (page : StudioPage) : StudioEvent → Option StudioPage
  | .render =>
      -- an empty deck has no route to the canvas
      if page.store.deck = [] then none
      else some (StudioPage.repaint { page with renders := page.renders + 1, visible := true })
  | .leave => some { page with visible := false }
  | .type text => do
      let frame ← page.frame
      -- `maxlength`
      if textMax < text.length then none
      return { page with
        screen := .stage (frame.typed text)
        store := page.store.edit (.setText frame.shown text) }
  | .pick index => do
      let frame ← page.frame
      if frame.total ≤ index then none
      return page.show page.renders index
  | .prev => do
      let frame ← page.frame
      if frame.prevDisabled then none
      return page.show page.renders (page.active - 1)
  | .next => do
      let frame ← page.frame
      if frame.nextDisabled then none
      return page.show page.renders (page.active + 1)
  | .dragStart index => do
      let frame ← page.frame
      if frame.total ≤ index then none
      return { page with dragged := some index }
  | .dragEnd => some { page with dragged := none }
  | .drop target => do
      let frame ← page.frame
      match page.dragged, target with
      | some source, some target =>
          if frame.total ≤ target then none
          return page.dropped source target
      | _, _ => return page
  | .askDelete index => do
      let _ ← page.frame
      let slide ← page.store.deck[index]?
      return { page with dialog := some (.confirm index slide) }
  | .confirm =>
      match page.dialog with
      | some (.confirm index _) => some (page.deleted index)
      | _ => none
  | .askAdd => do
      let _ ← page.frame
      -- "A carousel holds 10 slides."
      if page.store.room = 0 then return page
      return { page with dialog := some (.choose page.renders) }
  | .write =>
      match page.dialog with
      | some (.choose render) => some (page.written render)
      | _ => none
  | .browse =>
      match page.dialog with
      | some (.choose render) => some { page with dialog := some (.picker render) }
      | _ => none
  | .pickStories picked =>
      match page.dialog with
      | some (.picker render) => some
          { page with
            dialog := none
            adds := if picked = [] then page.adds else page.adds ++ [⟨render, picked⟩] }
      | _ => none
  | .dismiss => if page.dialog = none then none else some { page with dialog := none }
  | .added k carouselId slides => do
      let add ← page.adds[k]?
      return StudioPage.addLanded { page with adds := page.adds.eraseIdx k } add carouselId slides
  | .addFailed k => do
      let _ ← page.adds[k]?
      return { page with adds := page.adds.eraseIdx k }
  | .fire =>
      if page.store.saveTimer then
        some { page with store := { page.store with saveTimer := false } }
      else none
  | .answered carouselId ok now =>
      if ok = true ∧ page.store.carouselId = some carouselId then
        some (StudioPage.announce { page with store := page.store.answered carouselId ok now })
      else some page
  | .load carouselId slides => some (page.loaded carouselId slides)
  | .clear =>
      if page.store.deck = [] then some page
      else some (StudioPage.announce { page with store := page.store.clear })

end Feedcast
