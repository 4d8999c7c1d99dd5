/-
  Feedcast.Schemas.City — the payloads of onboarding
  (`schemas/source.py`, `schemas/city.py`).

  A payload is a value its schema has accepted: the bounds of the fields are
  fields of the structure.  In a PATCH body `none` is a field left out, and
  `some none` a field sent as null.
-/
import Feedcast.Core.Text
import Feedcast.Db.Models

namespace Feedcast

/-! ## §1. Sources. -/

structure SourceCreate where
  name : Str
  feedUrl : Str
  language : Str
  publisherGroup : Str
  isLocalOutlet : Bool := false
  enabled : Bool := true
  fetchIntervalMinutes : Nat := 30
  name_ne : name ≠ [] := by decide
  feedUrl_ne : feedUrl ≠ [] := by decide
  language_ne : language ≠ [] := by decide
  publisherGroup_ne : publisherGroup ≠ [] := by decide
  fetchInterval_ge : 1 ≤ fetchIntervalMinutes := by decide
  fetchInterval_le : fetchIntervalMinutes ≤ 10080 := by decide
  deriving DecidableEq

/-- `Source(city_id=…, **data.model_dump())`: the row an accepted source starts
as, the columns the payload leaves out at their defaults. -/
def SourceCreate.row (data : SourceCreate) (id cityId : Nat) : Source where
  id := id
  name := data.name
  feedUrl := data.feedUrl
  language := data.language
  enabled := data.enabled
  publisherGroup := data.publisherGroup
  cityId := cityId
  isLocalOutlet := data.isLocalOutlet
  fetchIntervalMinutes := data.fetchIntervalMinutes
  etag := none
  lastModified := none
  cacheMaxAgeSeconds := none
  lastFetchedAt := none
  consecutiveFailures := 0
  lastSuccessAt := none
  lastError := none
  lastErrorAt := none
  archivedAt := none

@[simp] theorem SourceCreate.row_id (data : SourceCreate) (id cityId : Nat) :
    (data.row id cityId).id = id := rfl

/-- The source the tests onboard. -/
def testTimes : SourceCreate where
  name := "Test Times".toList
  feedUrl := "https://example.test/rss".toList
  language := "en".toList
  publisherGroup := "test-times".toList

structure SourceUpdate where
  name : Option (Option Str) := none
  feedUrl : Option (Option Str) := none
  language : Option (Option Str) := none
  publisherGroup : Option (Option Str) := none
  isLocalOutlet : Option (Option Bool) := none
  enabled : Option (Option Bool) := none
  fetchIntervalMinutes : Option (Option Nat) := none
  name_ne : name ≠ some (some []) := by decide
  feedUrl_ne : feedUrl ≠ some (some []) := by decide
  language_ne : language ≠ some (some []) := by decide
  publisherGroup_ne : publisherGroup ≠ some (some []) := by decide
  fetchInterval_bounds : ∀ n, fetchIntervalMinutes = some (some n) → 1 ≤ n ∧ n ≤ 10080 := by
    simp
  deriving DecidableEq

/-! ## §2. Cities. -/

/-- `normalize_slug`. -/
def normalizeSlug (P : Platform) (value : Str) : Str := P.casefold (strip value)

structure CityCreate where
  name : Str
  state : Option Str := none
  sources : List SourceCreate
  name_ne : name ≠ [] := by decide
  sources_ne : sources ≠ [] := by decide
  sources_le : sources.length ≤ 20 := by decide
  deriving DecidableEq

structure CityUpdate where
  name : Option (Option Str) := none
  state : Option (Option Str) := none
  name_ne : name ≠ some (some []) := by decide
  deriving DecidableEq

/-! ## §3. Writing a PATCH. -/

/-- `setattr` of one non-null column from a PATCH body, and the refusal the
database gives at the flush when the body sends null. -/
def patchColumn {α : Type} (column : Str) (patch : Option (Option α)) (old : α) : Raises α :=
  match patch with
  | none => .ok old
  | some (some value) => .ok value
  | some none => .error ("null value in column ".toList ++ column)

/-- `setattr` of one nullable column. -/
def patchNullable {α : Type} (patch : Option (Option α)) (old : Option α) : Option α :=
  patch.getD old

def SourceUpdate.apply (data : SourceUpdate) (source : Source) : Raises Source := do
  return { source with
    name := ← patchColumn "name".toList data.name source.name
    feedUrl := ← patchColumn "feed_url".toList data.feedUrl source.feedUrl
    language := ← patchColumn "language".toList data.language source.language
    publisherGroup :=
      ← patchColumn "publisher_group".toList data.publisherGroup source.publisherGroup
    isLocalOutlet := ← patchColumn "is_local_outlet".toList data.isLocalOutlet source.isLocalOutlet
    enabled := ← patchColumn "enabled".toList data.enabled source.enabled
    fetchIntervalMinutes :=
      ← patchColumn "fetch_interval_minutes".toList data.fetchIntervalMinutes
          source.fetchIntervalMinutes }

def CityUpdate.apply (data : CityUpdate) (city : City) : Raises City := do
  return { city with
    name := ← patchColumn "name".toList data.name city.name
    state := patchNullable data.state city.state }

end Feedcast
