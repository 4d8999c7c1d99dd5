/-
  Feedcast.Cities.Patch — what a PATCH writes
  (`services/sources.py`, `services/cities.py`).

  The handlers copy onto the row whatever was set in the body.  A field left out
  and a field sent as null have one type, and only the first is harmless: most
  of the columns are NOT NULL, and the commit fails on the second.

    • `patchColumn_ok` — one column,
    • `SourceUpdate.apply_written`, `CityUpdate.apply_written` — one row,
    • `patch_written_iff` — which bodies can be written.
-/
import Feedcast.Services.Cities

namespace Feedcast

open Feedcast.Lib

/-! ## §1. The property. -/

/-- A NOT NULL column after the body: the value sent, or the one it held. -/
def Takes {α : Type} (patch : Option (Option α)) (old new : α) : Prop :=
  match patch with
  | none => new = old
  | some value => value = some new

/-- A nullable column after the body. -/
def TakesNullable {α : Type} (patch : Option (Option α)) (old new : Option α) : Prop :=
  match patch with
  | none => new = old
  | some value => value = new

/-- **The row has the values sent, and is unchanged elsewhere.** -/
structure SourceUpdate.Written (data : SourceUpdate) (source source' : Source) : Prop where
  name : Takes data.name source.name source'.name
  feedUrl : Takes data.feedUrl source.feedUrl source'.feedUrl
  language : Takes data.language source.language source'.language
  publisherGroup : Takes data.publisherGroup source.publisherGroup source'.publisherGroup
  isLocalOutlet : Takes data.isLocalOutlet source.isLocalOutlet source'.isLocalOutlet
  enabled : Takes data.enabled source.enabled source'.enabled
  fetchIntervalMinutes : Takes data.fetchIntervalMinutes source.fetchIntervalMinutes
    source'.fetchIntervalMinutes
  elsewhere : source' =
    { source with
      name := source'.name, feedUrl := source'.feedUrl, language := source'.language
      publisherGroup := source'.publisherGroup, isLocalOutlet := source'.isLocalOutlet
      enabled := source'.enabled, fetchIntervalMinutes := source'.fetchIntervalMinutes }

structure CityUpdate.Written (data : CityUpdate) (city city' : City) : Prop where
  name : Takes data.name city.name city'.name
  state : TakesNullable data.state city.state city'.state
  elsewhere : city' = { city with name := city'.name, state := city'.state }

/-- **The PATCH of a source commits, and touches only what it names.** -/
def SourcePatched (db : Db) (sourceId : Nat) (source : Source) (data : SourceUpdate) : Prop :=
  ∃ db' source', updateSource db sourceId data = .ok db'
    ∧ db'.getSource sourceId = some source' ∧ data.Written source source'
    ∧ db' = db.putSource source'

/-- **The PATCH of a city commits, and touches only what it names.** -/
def CityPatched (db : Db) (cityId : Nat) (city : City) (data : CityUpdate) : Prop :=
  ∃ db' city', updateCity db cityId data = .ok db'
    ∧ db'.getCity cityId = some city' ∧ data.Written city city'
    ∧ db' = db.putCity city'

/-! ## §2. The condition. -/

/-- The body sends null for no column that is NOT NULL. -/
structure SourceUpdate.NoNull (data : SourceUpdate) : Prop where
  name : data.name ≠ some none
  feedUrl : data.feedUrl ≠ some none
  language : data.language ≠ some none
  publisherGroup : data.publisherGroup ≠ some none
  isLocalOutlet : data.isLocalOutlet ≠ some none
  enabled : data.enabled ≠ some none
  fetchIntervalMinutes : data.fetchIntervalMinutes ≠ some none

/-- The state is nullable. -/
structure CityUpdate.NoNull (data : CityUpdate) : Prop where
  name : data.name ≠ some none

/-! ## §3. One row. -/

/-- **One column.** -/
theorem patchColumn_ok {α : Type} {column : Str} {patch : Option (Option α)} {old new : α} :
    patchColumn column patch old = .ok new ↔ Takes patch old new := by
  cases patch with
  | none =>
      unfold patchColumn Takes
      exact ⟨fun h => (Except.ok.inj h).symm, fun h => congrArg Except.ok h.symm⟩
  | some value =>
      cases value with
      | none =>
          -- a null for a column that is NOT NULL
          refine iff_of_false (fun h => ?_) (fun h => ?_)
          · cases h
          · cases h
      | some value =>
          unfold patchColumn Takes
          exact ⟨fun h => congrArg some (Except.ok.inj h),
            fun h => congrArg Except.ok (Option.some.inj h)⟩

/-- A column that is NOT NULL takes anything but null. -/
theorem takes_iff {α : Type} {patch : Option (Option α)} {old : α} :
    (∃ new, Takes patch old new) ↔ patch ≠ some none := by
  cases patch with
  | none => exact iff_of_true ⟨old, rfl⟩ (by simp)
  | some value =>
      cases value with
      | none =>
          refine iff_of_false (fun h => ?_) (not_not_intro rfl)
          obtain ⟨new, hnew⟩ := h
          cases hnew
      | some value => exact iff_of_true ⟨value, rfl⟩ (by simp)

theorem Takes.ne_null {α : Type} {patch : Option (Option α)} {old new : α}
    (h : Takes patch old new) : patch ≠ some none := takes_iff.mp ⟨new, h⟩

/-- **One row of `sources`.** -/
theorem SourceUpdate.apply_written {data : SourceUpdate} {source source' : Source} :
    data.apply source = .ok source' ↔ data.Written source source' := by
  unfold SourceUpdate.apply
  constructor
  · intro h
    -- the columns one after another, each refused or taken
    obtain ⟨name, hname, h⟩ := except_bind_ok.mp h
    obtain ⟨feedUrl, hfeedUrl, h⟩ := except_bind_ok.mp h
    obtain ⟨language, hlanguage, h⟩ := except_bind_ok.mp h
    obtain ⟨publisherGroup, hpublisherGroup, h⟩ := except_bind_ok.mp h
    obtain ⟨isLocalOutlet, hisLocalOutlet, h⟩ := except_bind_ok.mp h
    obtain ⟨enabled, henabled, h⟩ := except_bind_ok.mp h
    obtain ⟨fetchIntervalMinutes, hfetch, h⟩ := except_bind_ok.mp h
    cases h
    exact ⟨patchColumn_ok.mp hname, patchColumn_ok.mp hfeedUrl, patchColumn_ok.mp hlanguage,
      patchColumn_ok.mp hpublisherGroup, patchColumn_ok.mp hisLocalOutlet,
      patchColumn_ok.mp henabled, patchColumn_ok.mp hfetch, rfl⟩
  · intro h
    refine except_bind_ok.mpr ⟨_, patchColumn_ok.mpr h.name, ?_⟩
    refine except_bind_ok.mpr ⟨_, patchColumn_ok.mpr h.feedUrl, ?_⟩
    refine except_bind_ok.mpr ⟨_, patchColumn_ok.mpr h.language, ?_⟩
    refine except_bind_ok.mpr ⟨_, patchColumn_ok.mpr h.publisherGroup, ?_⟩
    refine except_bind_ok.mpr ⟨_, patchColumn_ok.mpr h.isLocalOutlet, ?_⟩
    refine except_bind_ok.mpr ⟨_, patchColumn_ok.mpr h.enabled, ?_⟩
    refine except_bind_ok.mpr ⟨_, patchColumn_ok.mpr h.fetchIntervalMinutes, ?_⟩
    exact congrArg Except.ok h.elsewhere.symm

/-- **One row of `cities`.** -/
theorem CityUpdate.apply_written {data : CityUpdate} {city city' : City} :
    data.apply city = .ok city' ↔ data.Written city city' := by
  -- `state` may be NULL, so that a null is a value for it
  have hstate : ∀ state, patchNullable data.state city.state = state ↔
      TakesNullable data.state city.state state := by
    intro state
    unfold patchNullable TakesNullable
    cases data.state with
    | none => exact eq_comm
    | some value => exact Iff.rfl
  unfold CityUpdate.apply
  constructor
  · intro h
    obtain ⟨name, hname, h⟩ := except_bind_ok.mp h
    cases h
    exact ⟨patchColumn_ok.mp hname, (hstate _).mp rfl, rfl⟩
  · intro h
    refine except_bind_ok.mpr ⟨_, patchColumn_ok.mpr h.name, ?_⟩
    rw [(hstate _).mpr h.state]
    exact congrArg Except.ok h.elsewhere.symm

/-! ## §4. The two handlers. -/

/-- **A source is patched exactly if no column that is NOT NULL is sent null.** -/
theorem sourcePatched_iff {db : Db} {sourceId : Nat} {source : Source}
    (hget : db.getSource sourceId = some source) (data : SourceUpdate) :
    SourcePatched db sourceId source data ↔ data.NoNull := by
  constructor
  · intro h
    obtain ⟨db', source', -, -, hwritten, -⟩ := h
    exact ⟨hwritten.name.ne_null, hwritten.feedUrl.ne_null, hwritten.language.ne_null,
      hwritten.publisherGroup.ne_null, hwritten.isLocalOutlet.ne_null, hwritten.enabled.ne_null,
      hwritten.fetchIntervalMinutes.ne_null⟩
  · intro h
    obtain ⟨name, hname⟩ := takes_iff.mpr h.name
    obtain ⟨feedUrl, hfeedUrl⟩ := takes_iff.mpr h.feedUrl
    obtain ⟨language, hlanguage⟩ := takes_iff.mpr h.language
    obtain ⟨publisherGroup, hpublisherGroup⟩ := takes_iff.mpr h.publisherGroup
    obtain ⟨isLocalOutlet, hisLocalOutlet⟩ := takes_iff.mpr h.isLocalOutlet
    obtain ⟨enabled, henabled⟩ := takes_iff.mpr h.enabled
    obtain ⟨fetchIntervalMinutes, hfetch⟩ := takes_iff.mpr h.fetchIntervalMinutes
    -- with no null among them every field has a row it can be written to
    have hwritten : data.Written source
        { source with
          name := name, feedUrl := feedUrl, language := language
          publisherGroup := publisherGroup, isLocalOutlet := isLocalOutlet
          enabled := enabled, fetchIntervalMinutes := fetchIntervalMinutes } :=
      ⟨hname, hfeedUrl, hlanguage, hpublisherGroup, hisLocalOutlet, henabled, hfetch, rfl⟩
    refine ⟨_, _, ?_, ?_, hwritten, rfl⟩
    · have happly := SourceUpdate.apply_written.mpr hwritten
      simp only [updateSource, getSource, hget, bind, Except.bind, happly]
      rfl
    · obtain rfl : source.id = sourceId := (getRow_some Source.id hget).2
      exact getRow_setRow_self Source.id hget

/-- **A city is patched exactly if its name is not sent null.** -/
theorem cityPatched_iff {db : Db} {cityId : Nat} {city : City}
    (hget : db.getCity cityId = some city) (data : CityUpdate) :
    CityPatched db cityId city data ↔ data.NoNull := by
  constructor
  · intro h
    obtain ⟨db', city', -, -, hwritten, -⟩ := h
    exact ⟨hwritten.name.ne_null⟩
  · intro h
    obtain ⟨name, hname⟩ := takes_iff.mpr h.name
    -- a field left out keeps the column
    have hstate : TakesNullable data.state city.state (data.state.getD city.state) := by
      unfold TakesNullable
      cases data.state with
      | none => rfl
      | some value => rfl
    have hwritten : data.Written city
        { city with name := name, state := data.state.getD city.state } := ⟨hname, hstate, rfl⟩
    refine ⟨_, _, ?_, ?_, hwritten, rfl⟩
    · have happly := CityUpdate.apply_written.mpr hwritten
      simp only [updateCity, getCity, hget, bind, Except.bind, happly]
      rfl
    · obtain rfl : city.id = cityId := (getRow_some City.id hget).2
      exact getRow_setRow_self City.id hget

/-- **A PATCH IS WRITTEN, AND TOUCHES ONLY WHAT IT NAMES, EXACTLY IF** it sends
null for no column that is NOT NULL: of a source none of its fields, of a city
only its state. -/
theorem patch_written_iff (db : Db) :
    (∀ sourceId source (data : SourceUpdate), db.getSource sourceId = some source →
      (SourcePatched db sourceId source data ↔ data.NoNull))
    ∧ ∀ cityId city (data : CityUpdate), db.getCity cityId = some city →
      (CityPatched db cityId city data ↔ data.NoNull) :=
  ⟨fun _ _ data hget => sourcePatched_iff hget data,
    fun _ _ data hget => cityPatched_iff hget data⟩

/-- One polled feed. -/
def oneFeed : Db where
  sources := [testTimes.row 3 1]

/-- A text left out is not blank. -/
theorem leftOut_ne : (none : Option (Option Str)) ≠ some (some []) := nofun

theorem leftOut_bounds (n : Nat) (h : (none : Option (Option Nat)) = some (some n)) :
    1 ≤ n ∧ n ≤ 10080 :=
  nomatch h

/-- A body that sends the name as null, as the schema lets it. -/
def nullName : SourceUpdate where
  name := some none
  feedUrl_ne := leftOut_ne
  language_ne := leftOut_ne
  publisherGroup_ne := leftOut_ne
  fetchInterval_bounds := leftOut_bounds

/-- The schema takes it, and the commit does not. -/
theorem nullName_refused :
    oneFeed.getSource 3 = some (testTimes.row 3 1)
      ∧ updateSource oneFeed 3 nullName
        = .error (.integrity "null value in column name".toList)
      ∧ ¬ SourcePatched oneFeed 3 (testTimes.row 3 1) nullName := by
  refine ⟨rfl, rfl, ?_⟩
  intro h
  obtain ⟨db', source', hrun, -⟩ := h
  cases hrun

end Feedcast
