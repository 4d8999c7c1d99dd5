/-
  Feedcast.Static.Gallery — the Gallery in the browser (`static/js/gallery.js`).

  The whole list is fetched once and narrowed here: by state with the pills, by
  city with a native select.  `paint` draws the controls and the grid from the
  rows in hand; a load that fails drops the rows and clears the grid, and leaves
  the controls of the last paint.  The order of two city names is
  `localeCompare`'s, and a parameter.  How a date is written out is left out.
-/
import Feedcast.Lib.Dict
import Feedcast.Services.Gallery
import Feedcast.Static.Selection
import Mathlib.Data.List.Sort

namespace Feedcast

open Feedcast.Lib

/-- Whether `staleNote` has something to say. -/
def staleNote (row : CarouselSummary) : Bool :=
  match row.lastDownloadedAt, row.lastEditedAt with
  | some downloaded, some edited => dateParse downloaded < dateParse edited
  | _, _ => false

/-- `rows` and `state`, and what is on the page. -/
structure GalleryPage where
  rows : List CarouselSummary := []
  filter : Option Str := none
  cityId : Option Nat := none
  /-- The rows of the last `paint`, whose controls are there. -/
  painted : Option (List CarouselSummary) := none
  /-- The last load failed, and nothing was painted since. -/
  cleared : Bool := false
  deriving Repr, DecidableEq

/-! ## §1. The controls. -/

/-- A pill: its label, what it filters on, and its count. -/
structure StatePill where
  label : Str
  value : Option Str
  count : Nat
  deriving Repr, DecidableEq

/-- `counts[value]`, over the whole archive. -/
def GalleryPage.countOf (page : GalleryPage) : Option Str → Nat
  | none => page.rows.length
  | some state => (page.rows.filter fun row => row.state = state).length

def statePills (page : GalleryPage) : List StatePill :=
  [("All", none), ("Draft", some "draft".toList), ("Downloaded", some "downloaded".toList)].map
    fun pill => { label := pill.1.toList, value := pill.2, count := page.countOf pill.2 }

/-- `seen`: every city of a row, under its id. -/
def seenCities (rows : List CarouselSummary) : List (Nat × Str) :=
  Dict.ofPairs (rows.map fun row => (row.cityId, row.cityName))

/-- The options of `cityFilter` after the first one. -/
def cityOptions (nameBefore : Str → Str → Bool) (rows : List CarouselSummary) :
    List (Nat × Str) :=
  (seenCities rows).insertionSort fun a b => nameBefore a.2 b.2 = true

/-- What the select shows: the option that was marked, or else the first one, "All
cities". -/
def GalleryPage.citySelected (nameBefore : Str → Str → Bool) (page : GalleryPage) : Option Nat :=
  ((cityOptions nameBefore page.rows).map (·.1)).find? fun id => page.cityId = some id

/-! ## §2. The grid. -/

/-- The cards of `paint`, in the order of the list. -/
def GalleryPage.shown (page : GalleryPage) : List CarouselSummary :=
  page.rows.filter fun row =>
    (page.filter = none || page.filter = some row.state)
      && (page.cityId = none || page.cityId = some row.cityId)

/-- `emptyState`, in place of the grid: whether it blames the filters. -/
def GalleryPage.emptyState (page : GalleryPage) : Option Bool :=
  if page.shown = [] then some (0 < page.rows.length) else none

/-- The page as it was painted from these rows. -/
def GalleryPage.over (page : GalleryPage) (rows : List CarouselSummary) : GalleryPage :=
  { page with rows := rows }

/-- The cards that are on the page. -/
def GalleryPage.grid (page : GalleryPage) : List CarouselSummary :=
  if page.cleared then [] else page.shown

/-! ## §3. What the page does. -/

inductive GalleryEvent
  /-- `load` is answered. -/
  | loaded (rows : List CarouselSummary)
  | loadFailed
  | pill (value : Option Str)
  /-- An option of the select is chosen; "All cities" is `none`. -/
  | city (id : Option Nat)

def GalleryPage.paint (page : GalleryPage) : GalleryPage :=
  { page with painted := some page.rows, cleared := false }

/-- Only what is on the page can be clicked. -/
def GalleryPage.step (nameBefore : Str → Str → Bool) (page : GalleryPage) :
    GalleryEvent → Option GalleryPage
  | .loaded rows => some (page.over rows).paint
  | .loadFailed => some { page.over [] with cleared := true }
  | .pill value =>
      match page.painted with
      | none => none
      | some painted =>
          if value ∈ (statePills (page.over painted)).map (·.value) then
            some { page with filter := value }.paint
          else none
  | .city id =>
      match page.painted with
      | none => none
      | some painted =>
          if ∀ id' ∈ id, id' ∈ (cityOptions nameBefore painted).map (·.1) then
            some { page with cityId := id }.paint
          else none

end Feedcast
