/-
  Feedcast.Static.Feed — Discover in the browser (`static/js/feed.js`).

  `renderFeed` is split where it awaits: the city list, the sources, and each
  page.  Every call has a grid and a status line of its own; the filters and
  the paging offset belong to the module.  What follows is Discover while it is
  in view: leaving it and coming back is one more call.

  The cards, the notices and the tray are left out, and so is the health tick,
  which is all the sources are for.
-/
import Feedcast.Lib.Paging
import Feedcast.Services.Stories

namespace Feedcast

open Feedcast.Lib

/-! ## §1. The server. -/

/-- What `fetchStories` asks for: the filters, and the city of the picker. -/
structure FeedFilters where
  categories : List Category
  sort : StorySort
  cityId : Nat
  deriving Repr, DecidableEq

/-- The stories `/stories` has for each filter and sort, held constant. -/
structure StoriesServer where
  answer : FeedFilters → List StoryRead
  distinct : ∀ filters, ((answer filters).map (·.id)).Nodup

/-- `PAGE_SIZE`. -/
def pageSize : Nat := 24

/-! ## §2. The module. -/

/-- What a call of `renderFeed` is waiting for. -/
inductive RenderPhase where
  | city
  | sources
  /-- It has asked for its first page. -/
  | listing
  /-- There is no city to show. -/
  | stopped
  deriving Repr, DecidableEq

/-- A page on its way. -/
structure PageRequest where
  filters : FeedFilters
  offset : Nat
  /-- Kept for the record: `Discover.stray` when it was sent. -/
  stray : Nat
  deriving Repr, DecidableEq

/-- One call of `renderFeed`. -/
structure FeedRender where
  phase : RenderPhase := .city
  /-- The stories of the cards in its grid. -/
  grid : List StoryRead := []
  request : Option PageRequest := none
  /-- Its status line shows "Load more". -/
  more : Bool := false
  deriving DecidableEq

structure Discover where
  filters : FeedFilters
  offset : Nat
  latest : FeedRender
  superseded : List FeedRender
  /-- Kept for the record: how many stories have come to superseded renders
  since the latest one began. -/
  stray : Nat
  deriving DecidableEq

/-- The first call of `renderFeed`. -/
def Discover.opened (filters : FeedFilters) : Discover where
  filters := filters
  offset := 0
  latest := {}
  superseded := []
  stray := 0

/-! ## §3. Events. -/

inductive Whose where
  | latest
  | superseded (i : Nat)
  deriving Repr, DecidableEq

inductive FeedEvent where
  /-- `renderFeed` is called: a filter, the sort, the city, a refresh. -/
  | render (filters : FeedFilters)
  /-- The city changes while the latest render does not listen yet. -/
  | settleCity (cityId : Nat)
  | cityLoaded (who : Whose) (goesOn : Bool)
  | sourcesLoaded (who : Whose)
  | answered (who : Whose) (ok : Bool)
  | loadMore
  deriving Repr, DecidableEq

def Discover.renderOf (view : Discover) : Whose → Option FeedRender
  | .latest => some view.latest
  | .superseded i => view.superseded[i]?

def Discover.putRender (view : Discover) (who : Whose) (render : FeedRender) : Discover :=
  match who with
  | .latest => { view with latest := render }
  | .superseded i => { view with superseded := view.superseded.set i render }

/-- `page` up to its await: the module's filters and offset, whoever asks. -/
def Discover.sendPage (view : Discover) (render : FeedRender) : FeedRender :=
  { render with
    phase := .listing
    request := some { filters := view.filters, offset := view.offset, stray := view.stray }
    more := false }

/-- `page` from its await on. -/
def FeedRender.append (render : FeedRender) (stories : List StoryRead) : FeedRender :=
  { render with
    grid := render.grid ++ stories, request := none, more := stories.length = pageSize }

/-- The stories of a page that has arrived, and whose they are. -/
def Discover.arrived (view : Discover) (who : Whose) (render : FeedRender)
    (stories : List StoryRead) : Discover :=
  let stray := match who with
    | .latest => 0
    | .superseded _ => stories.length
  { view.putRender who (render.append stories) with
    -- the one offset moves on, whosever page it was
    offset := view.offset + stories.length, stray := view.stray + stray }

def discoverStep (server : StoriesServer) (view : Discover) : FeedEvent → Option Discover
  | .render filters => some {
      filters := filters, offset := 0, latest := {}
      superseded := view.superseded ++ [view.latest], stray := 0 }
  | .settleCity cityId =>
      if view.latest.phase = .city then
        some { view with filters := { view.filters with cityId := cityId } }
      else none
  | .cityLoaded who goesOn => do
      let render ← view.renderOf who
      if render.phase = .city then
        return view.putRender who { render with phase := if goesOn then .sources else .stopped }
      else none
  | .sourcesLoaded who => do
      let render ← view.renderOf who
      if render.phase = .sources then return view.putRender who (view.sendPage render) else none
  | .answered who ok => do
      let render ← view.renderOf who
      let request ← render.request
      if ok then
        return view.arrived who render
          (page pageSize request.offset (server.answer request.filters))
      else return view.putRender who { render with request := none, more := false }
  -- the button of a superseded render is gone with its view
  | .loadMore =>
      if view.latest.more then some { view with latest := view.sendPage view.latest } else none

end Feedcast
