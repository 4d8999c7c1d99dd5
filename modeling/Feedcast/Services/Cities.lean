/-
  Feedcast.Services.Cities — city and source CRUD
  (`services/cities.py`, `services/sources.py`).

  Each function is one transaction: it returns the database after its commit,
  or the exception that leaves the database as it was.  §3 collects the calls
  into one system, `onboardingStep`, in which a refused call is a step that
  changes nothing.

  Each function has one inversion lemma (`createCity_ok`, …) that says
  everything a successful call can do; nothing else unfolds it.
-/
import Feedcast.Core.Config
import Feedcast.Schemas.City
import Feedcast.Lib.Except
import Feedcast.Lib.Runs

namespace Feedcast

open Feedcast.Lib

/-- What the services raise. -/
inductive OnboardingError where
  | cityNotFound (cityId : Nat)
  | duplicateCitySlug (slug : Str)
  | cityFull (cap : Int)
  | sourceNotFound (sourceId : Nat)
  /-- The database's own refusal at the flush. -/
  | integrity (message : Str)
  deriving Repr, DecidableEq

/-! ## §1. Sources. -/

def getSource (db : Db) (sourceId : Nat) : Except OnboardingError Source :=
  match db.getSource sourceId with
  | some source => .ok source
  | none => .error (.sourceNotFound sourceId)

def updateSource (db : Db) (sourceId : Nat) (data : SourceUpdate) :
    Except OnboardingError Db := do
  let source ← getSource db sourceId
  match data.apply source with
  | .error e => throw (.integrity e)
  | .ok source' => return db.putSource source'

def archiveSource (db : Db) (sourceId : Nat) (now : Time) : Except OnboardingError Db := do
  let source ← getSource db sourceId
  return db.putSource { source with archivedAt := some now }

/-! ## §2. Cities. -/

/-- `city.sources`: every feed the city has ever had. -/
def citySources (db : Db) (cityId : Nat) : List Source :=
  db.sources.filter fun source => source.cityId = cityId

/-- `_live_sources`. -/
def liveSources (db : Db) (cityId : Nat) : List Source :=
  (citySources db cityId).filter fun source => source.archivedAt = none

/-- `source_count`: non-archived only. -/
def sourceCount (db : Db) (cityId : Nat) : Nat := (liveSources db cityId).length

def getCity (db : Db) (cityId : Nat) : Except OnboardingError City :=
  match db.getCity cityId with
  | some city => .ok city
  | none => .error (.cityNotFound cityId)

/-- `_assert_slug_free`. -/
def assertSlugFree (db : Db) (slug : Str) : Except OnboardingError Unit :=
  if db.cities.any fun city => city.slug = slug then .error (.duplicateCitySlug slug) else .ok ()

/-- The rows of a batch of sources, numbered from `next`. -/
def sourceRows (cityId : Nat) : Nat → List SourceCreate → List Source
  | _, [] => []
  | next, data :: rest => data.row next cityId :: sourceRows cityId (next + 1) rest

/-- The rows of a batch have not been polled. -/
theorem sourceRows_unpolled {cityId next : Nat} {sources : List SourceCreate} {s : Source}
    (h : s ∈ sourceRows cityId next sources) : s.etag = none ∧ s.lastModified = none := by
  induction sources generalizing next with
  | nil => cases h
  | cons data rest ih =>
      rcases List.mem_cons.mp h with rfl | h
      · exact ⟨rfl, rfl⟩
      · exact ih h

def createCity (P : Platform) (settings : Settings) (db : Db) (data : CityCreate) :
    Except OnboardingError Db := do
  -- the city and every one of its sources, or neither
  if (data.sources.length : Int) > settings.maxSourcesPerCity then
    throw (.cityFull settings.maxSourcesPerCity)
  let slug := normalizeSlug P data.name
  assertSlugFree db slug
  let city : City :=
    { id := db.nextCity, name := strip data.name, slug := slug, state := data.state
      archivedAt := none }
  return { db with
    cities := db.cities ++ [city]
    nextCity := db.nextCity + 1
    sources := db.sources ++ sourceRows city.id db.nextSource data.sources
    nextSource := db.nextSource + data.sources.length }

def updateCity (db : Db) (cityId : Nat) (data : CityUpdate) : Except OnboardingError Db := do
  let city ← getCity db cityId
  match data.apply city with
  | .error e => throw (.integrity e)
  | .ok city' => return db.putCity city'

/-- The cascade of `archive_city` on one row: a feed already archived keeps its
stamp. -/
def archiveWithCity (cityId : Nat) (now : Time) (source : Source) : Source :=
  if source.cityId = cityId ∧ source.archivedAt = none then { source with archivedAt := some now }
  else source

def archiveCity (db : Db) (cityId : Nat) (now : Time) : Except OnboardingError Db := do
  let city ← getCity db cityId
  let db' := db.putCity { city with archivedAt := some now }
  return { db' with sources := db.sources.map (archiveWithCity city.id now) }

/-- The cascade of `unarchive_city` on one row. -/
def reviveWithCity (cityId : Nat) (source : Source) : Source :=
  if source.cityId = cityId then { source with archivedAt := none } else source

def unarchiveCity (db : Db) (cityId : Nat) : Except OnboardingError Db := do
  let city ← getCity db cityId
  -- why a source was archived is not recorded, so all of them come back
  let db' := db.putCity { city with archivedAt := none }
  return { db' with sources := db.sources.map (reviveWithCity city.id) }

def addSource (settings : Settings) (db : Db) (cityId : Nat) (data : SourceCreate) :
    Except OnboardingError Db := do
  let city ← getCity db cityId
  -- the city may be archived: only the cap is looked at
  if (sourceCount db city.id : Int) ≥ settings.maxSourcesPerCity then
    throw (.cityFull settings.maxSourcesPerCity)
  return { db with
    sources := db.sources ++ [data.row db.nextSource city.id]
    nextSource := db.nextSource + 1 }

/-! ## §3. The system. -/

inductive OnboardingCall where
  | createCity (data : CityCreate)
  | addSource (cityId : Nat) (data : SourceCreate)
  | updateSource (sourceId : Nat) (data : SourceUpdate)
  | archiveSource (sourceId : Nat) (now : Time)
  | archiveCity (cityId : Nat) (now : Time)
  | unarchiveCity (cityId : Nat)
  | updateCity (cityId : Nat) (data : CityUpdate)
  deriving DecidableEq

def OnboardingCall.run (P : Platform) (settings : Settings) (db : Db) :
    OnboardingCall → Except OnboardingError Db
  | .createCity data => Feedcast.createCity P settings db data
  | .addSource cityId data => Feedcast.addSource settings db cityId data
  | .updateSource sourceId data => Feedcast.updateSource db sourceId data
  | .archiveSource sourceId now => Feedcast.archiveSource db sourceId now
  | .archiveCity cityId now => Feedcast.archiveCity db cityId now
  | .unarchiveCity cityId => Feedcast.unarchiveCity db cityId
  | .updateCity cityId data => Feedcast.updateCity db cityId data

/-- One request after another; a refused one changes nothing. -/
def onboardingStep (P : Platform) (settings : Settings) (db : Db) (call : OnboardingCall) :
    Option Db :=
  match call.run P settings db with
  | .ok db' => some db'
  | .error _ => some db

/-- **A step keeps what every successful call keeps.** -/
theorem onboardingStep_keeps {P : Platform} {settings : Settings} {I : Db → Prop} {db db' : Db}
    {call : OnboardingCall} (hstep : onboardingStep P settings db call = some db') (hI : I db)
    (hcall : call.run P settings db = .ok db' → I db') : I db' := by
  unfold onboardingStep at hstep
  split at hstep
  · next h =>
      cases hstep
      exact hcall h
  · cases hstep
    exact hI

/-! ## §4. What each call does. -/

theorem getSource_ok {db : Db} {sourceId : Nat} {source : Source}
    (h : getSource db sourceId = .ok source) : db.getSource sourceId = some source := by
  unfold getSource at h
  split at h
  · next hs =>
      cases h
      exact hs
  · cases h

theorem getCity_ok {db : Db} {cityId : Nat} {city : City} (h : getCity db cityId = .ok city) :
    db.getCity cityId = some city := by
  unfold getCity at h
  split at h
  · next hc =>
      cases h
      exact hc
  · cases h

theorem getCity_id {db : Db} {cityId : Nat} {city : City} (h : getCity db cityId = .ok city) :
    city.id = cityId :=
  (getRow_some City.id (getCity_ok h)).2

theorem getCity_of_some {db : Db} {cityId : Nat} {city : City}
    (h : db.getCity cityId = some city) : getCity db cityId = .ok city := by
  unfold getCity
  rw [h]

/-- The columns a PATCH of a source cannot reach. -/
structure Source.SamePlace (source source' : Source) : Prop where
  id : source'.id = source.id
  cityId : source'.cityId = source.cityId
  archivedAt : source'.archivedAt = source.archivedAt
  etag : source'.etag = source.etag
  lastModified : source'.lastModified = source.lastModified

theorem SourceUpdate.apply_ok {data : SourceUpdate} {source source' : Source}
    (h : data.apply source = .ok source') :
    source.SamePlace source' ∧
      patchColumn "feed_url".toList data.feedUrl source.feedUrl = .ok source'.feedUrl := by
  unfold SourceUpdate.apply at h
  -- one column after another
  obtain ⟨name, -, h⟩ := except_bind_ok.mp h
  obtain ⟨feedUrl, hfeedUrl, h⟩ := except_bind_ok.mp h
  obtain ⟨language, -, h⟩ := except_bind_ok.mp h
  obtain ⟨publisherGroup, -, h⟩ := except_bind_ok.mp h
  obtain ⟨isLocalOutlet, -, h⟩ := except_bind_ok.mp h
  obtain ⟨enabled, -, h⟩ := except_bind_ok.mp h
  obtain ⟨fetchIntervalMinutes, -, h⟩ := except_bind_ok.mp h
  cases h
  exact ⟨⟨rfl, rfl, rfl, rfl, rfl⟩, hfeedUrl⟩

theorem CityUpdate.apply_ok {data : CityUpdate} {city city' : City}
    (h : data.apply city = .ok city') :
    city'.id = city.id ∧ city'.slug = city.slug ∧ city'.archivedAt = city.archivedAt := by
  unfold CityUpdate.apply at h
  obtain ⟨name, -, h⟩ := except_bind_ok.mp h
  cases h
  exact ⟨rfl, rfl, rfl⟩

theorem updateSource_ok {db db' : Db} {sourceId : Nat} {data : SourceUpdate}
    (h : updateSource db sourceId data = .ok db') :
    ∃ source source', db.getSource sourceId = some source ∧ data.apply source = .ok source'
      ∧ db' = db.putSource source' := by
  unfold updateSource at h
  obtain ⟨source, hs, h⟩ := except_bind_ok.mp h
  split at h
  · cases h
  · next source' ha =>
      cases h
      exact ⟨source, source', getSource_ok hs, ha, rfl⟩

theorem archiveSource_ok {db db' : Db} {sourceId : Nat} {now : Time}
    (h : archiveSource db sourceId now = .ok db') :
    ∃ source, db.getSource sourceId = some source
      ∧ db' = db.putSource { source with archivedAt := some now } := by
  unfold archiveSource at h
  obtain ⟨source, hs, h⟩ := except_bind_ok.mp h
  cases h
  exact ⟨source, getSource_ok hs, rfl⟩

/-- The row `createCity` adds. -/
def CityCreate.row (P : Platform) (data : CityCreate) (id : Nat) : City :=
  { id := id, name := strip data.name, slug := normalizeSlug P data.name, state := data.state
    archivedAt := none }

theorem createCity_ok {P : Platform} {settings : Settings} {db db' : Db} {data : CityCreate}
    (h : createCity P settings db data = .ok db') :
    (data.sources.length : Int) ≤ settings.maxSourcesPerCity ∧
      (∀ city ∈ db.cities, city.slug ≠ normalizeSlug P data.name) ∧
      db' = { db with
        cities := db.cities ++ [data.row P db.nextCity]
        nextCity := db.nextCity + 1
        sources := db.sources ++ sourceRows db.nextCity db.nextSource data.sources
        nextSource := db.nextSource + data.sources.length } := by
  unfold createCity assertSlugFree at h
  simp only [bind, Except.bind, pure, Except.pure] at h
  split at h
  -- too many feeds, or a slug that is taken
  · cases h
  next hcap =>
    split at h
    · cases h
    next hslug =>
      split at hslug
      · cases hslug
      next hfree =>
        cases h
        refine ⟨by omega, ?_, rfl⟩
        intro city hc heq
        exact hfree (List.any_eq_true.mpr ⟨city, hc, by simpa using heq⟩)

theorem updateCity_ok {db db' : Db} {cityId : Nat} {data : CityUpdate}
    (h : updateCity db cityId data = .ok db') :
    ∃ city city', db.getCity cityId = some city ∧ data.apply city = .ok city'
      ∧ db' = db.putCity city' := by
  unfold updateCity at h
  obtain ⟨city, hc, h⟩ := except_bind_ok.mp h
  split at h
  · cases h
  · next city' ha =>
      cases h
      exact ⟨city, city', getCity_ok hc, ha, rfl⟩

theorem archiveCity_ok {db db' : Db} {cityId : Nat} {now : Time}
    (h : archiveCity db cityId now = .ok db') :
    ∃ city, db.getCity cityId = some city ∧ city.id = cityId
      ∧ db' = { db.putCity { city with archivedAt := some now } with
          sources := db.sources.map (archiveWithCity cityId now) } := by
  unfold archiveCity at h
  obtain ⟨city, hc, h⟩ := except_bind_ok.mp h
  cases h
  exact ⟨city, getCity_ok hc, getCity_id hc, by rw [getCity_id hc]⟩

theorem unarchiveCity_ok {db db' : Db} {cityId : Nat} (h : unarchiveCity db cityId = .ok db') :
    ∃ city, db.getCity cityId = some city ∧ city.id = cityId
      ∧ db' = { db.putCity { city with archivedAt := none } with
          sources := db.sources.map (reviveWithCity cityId) } := by
  unfold unarchiveCity at h
  obtain ⟨city, hc, h⟩ := except_bind_ok.mp h
  cases h
  exact ⟨city, getCity_ok hc, getCity_id hc, by rw [getCity_id hc]⟩

theorem addSource_ok {settings : Settings} {db db' : Db} {cityId : Nat} {data : SourceCreate}
    (h : addSource settings db cityId data = .ok db') :
    ∃ city, db.getCity cityId = some city ∧ city.id = cityId
      ∧ (sourceCount db cityId : Int) < settings.maxSourcesPerCity
      ∧ db' = { db with
          sources := db.sources ++ [data.row db.nextSource cityId]
          nextSource := db.nextSource + 1 } := by
  unfold addSource at h
  obtain ⟨city, hc, h⟩ := except_bind_ok.mp h
  rw [getCity_id hc] at h
  -- the count is that of the city's live sources
  by_cases hcap : (sourceCount db cityId : Int) ≥ settings.maxSourcesPerCity
  · rw [if_pos hcap] at h
    cases h
  · rw [if_neg hcap] at h
    cases h
    exact ⟨city, getCity_ok hc, getCity_id hc, not_le.mp hcap, rfl⟩

/-- No city or source call touches an article. -/
theorem OnboardingCall.run_articles {P : Platform} {settings : Settings} {db db' : Db}
    {call : OnboardingCall} (h : call.run P settings db = .ok db') :
    db'.articles = db.articles := by
  -- none of the calls touches `articles`
  cases call with
  | createCity data =>
      obtain ⟨-, -, rfl⟩ := createCity_ok h
      rfl
  | addSource cityId data =>
      obtain ⟨_, -, -, -, rfl⟩ := addSource_ok h
      rfl
  | updateSource sourceId data =>
      obtain ⟨_, _, -, -, rfl⟩ := updateSource_ok h
      rfl
  | archiveSource sourceId now =>
      obtain ⟨_, -, rfl⟩ := archiveSource_ok h
      rfl
  | archiveCity cityId now =>
      obtain ⟨_, -, -, rfl⟩ := archiveCity_ok h
      rfl
  | unarchiveCity cityId =>
      obtain ⟨_, -, -, rfl⟩ := unarchiveCity_ok h
      rfl
  | updateCity cityId data =>
      obtain ⟨_, _, -, -, rfl⟩ := updateCity_ok h
      rfl

end Feedcast
