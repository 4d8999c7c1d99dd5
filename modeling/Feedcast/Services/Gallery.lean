/-
  Feedcast.Services.Gallery — the Gallery's list projection
  (`services/gallery.py`).

  Every carousel with its city and the number of its slides, most recently worked
  on first.  No slide is read: the count is the query's.
-/
import Feedcast.Api.Carousels

namespace Feedcast

open Feedcast.Lib

/-- One row of the Gallery.  The join leaves no row without its city. -/
structure CarouselSummary where
  id : Nat
  cityId : Nat
  cityName : Str
  state : Str
  slideCount : Nat
  createdAt : Time
  lastEditedAt : Option Time
  lastDownloadedAt : Option Time
  deriving Repr, DecidableEq

/-- `coalesce(last_edited_at, created_at)`. -/
def Carousel.workedOn (carousel : Carousel) : Time :=
  carousel.lastEditedAt.getD carousel.createdAt

/-- `coalesce(count(*), 0)` of the rows of a carousel. -/
def slideCount (db : Db) (carouselId : Nat) : Nat := (deckRows db carouselId).length

def Carousel.summary (db : Db) (carousel : Carousel) (city : City) : CarouselSummary where
  id := carousel.id
  cityId := city.id
  cityName := city.name
  state := carousel.state
  slideCount := slideCount db carousel.id
  createdAt := carousel.createdAt
  lastEditedAt := carousel.lastEditedAt
  lastDownloadedAt := carousel.lastDownloadedAt

/-- `ORDER BY worked_on DESC, id DESC`. -/
def listedBefore (a b : Carousel × City) : Prop :=
  b.1.workedOn < a.1.workedOn ∨ (b.1.workedOn = a.1.workedOn ∧ b.1.id ≤ a.1.id)

instance : DecidableRel listedBefore := fun a b =>
  inferInstanceAs (Decidable (b.1.workedOn < a.1.workedOn
    ∨ (b.1.workedOn = a.1.workedOn ∧ b.1.id ≤ a.1.id)))

/-- The carousels joined with their cities. -/
def joinCities (db : Db) : List (Carousel × City) :=
  db.carousels.filterMap fun carousel => (db.getCity carousel.cityId).map fun city =>
    (carousel, city)

def listCarousels (db : Db) : List CarouselSummary :=
  ((joinCities db).insertionSort listedBefore).map fun row => row.1.summary db row.2

end Feedcast
