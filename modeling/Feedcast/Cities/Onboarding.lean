/-
  Feedcast.Cities.Onboarding — what the city and source calls keep true.

  `Db.Keyed` (ids are unique, fresh ids are unused, every source hangs under a
  city) holds in every reachable database.  Over it, two statements the product
  makes about a city are followed through every sequence of calls:

    • `archived_silent_iff` — an archived city has no live feed exactly as long
      as no feed is added to an archived city,
    • `cap_kept_iff` — no city exceeds its source cap exactly as long as no
      revival brings back more feeds than the cap.
-/
import Feedcast.Core.Hashing
import Feedcast.Services.Cities
import Feedcast.Services.Scheduler

namespace Feedcast

open Feedcast.Lib

/-! ## §1. Keys. -/

/-- The constraints of the two tables. -/
structure Db.Keyed (db : Db) : Prop where
  city_nodup : (db.cities.map City.id).Nodup
  city_fresh : ∀ city ∈ db.cities, city.id < db.nextCity
  source_nodup : (db.sources.map Source.id).Nodup
  source_fresh : ∀ source ∈ db.sources, source.id < db.nextSource
  source_city : ∀ source ∈ db.sources, ∃ city ∈ db.cities, city.id = source.cityId

theorem Db.empty_keyed : Db.empty.Keyed where
  city_nodup := List.nodup_nil
  city_fresh := by simp [Db.empty]
  source_nodup := List.nodup_nil
  source_fresh := by simp [Db.empty]
  source_city := by simp [Db.empty]

theorem Db.Keyed.source_fresh_city {db : Db} (h : db.Keyed) {source : Source}
    (hs : source ∈ db.sources) : source.cityId < db.nextCity := by
  obtain ⟨city, hc, hid⟩ := h.source_city source hs
  rw [← hid]
  exact h.city_fresh city hc

/-- The keys are unchanged when both tables keep theirs, in order. -/
theorem Db.Keyed.of_same_keys {db db' : Db} (h : db.Keyed)
    (hcities : db'.cities.map City.id = db.cities.map City.id)
    (hnextCity : db'.nextCity = db.nextCity)
    (hsources : db'.sources.map (fun s => (s.id, s.cityId))
      = db.sources.map (fun s => (s.id, s.cityId)))
    (hnextSource : db'.nextSource = db.nextSource) : db'.Keyed := by
  -- the pairs carry the ids, and match each row with an old one
  have hids : db'.sources.map Source.id = db.sources.map Source.id := by
    have hfst := congrArg (List.map Prod.fst) hsources
    rwa [List.map_map, List.map_map] at hfst
  have hmem : ∀ s ∈ db'.sources, ∃ t ∈ db.sources, t.id = s.id ∧ t.cityId = s.cityId := by
    intro s hs
    have hpair : (s.id, s.cityId) ∈ db'.sources.map (fun s => (s.id, s.cityId)) :=
      List.mem_map_of_mem hs
    rw [hsources] at hpair
    obtain ⟨t, ht, heq⟩ := List.mem_map.mp hpair
    exact ⟨t, ht, congrArg Prod.fst heq, congrArg Prod.snd heq⟩
  refine ⟨hcities ▸ h.city_nodup, ?_, hids ▸ h.source_nodup, ?_, ?_⟩
  · intro city hc
    have hid : city.id ∈ db.cities.map City.id := hcities ▸ List.mem_map_of_mem hc
    obtain ⟨c, hmem, heq⟩ := List.mem_map.mp hid
    rw [hnextCity, ← heq]
    exact h.city_fresh c hmem
  · intro s hs
    obtain ⟨t, ht, hid, -⟩ := hmem s hs
    rw [hnextSource, ← hid]
    exact h.source_fresh t ht
  · intro s hs
    obtain ⟨t, ht, -, hcity⟩ := hmem s hs
    obtain ⟨c, hc, hid⟩ := h.source_city t ht
    have hc' : c.id ∈ db'.cities.map City.id := hcities ▸ List.mem_map_of_mem hc
    obtain ⟨c', hmem', heq⟩ := List.mem_map.mp hc'
    exact ⟨c', hmem', heq.trans (hid.trans hcity)⟩

theorem putSource_pairs {db : Db} {source source' : Source}
    (hget : db.getSource source.id = some source) (hid : source'.id = source.id)
    (hcity : source'.cityId = source.cityId) (hnd : (db.sources.map Source.id).Nodup) :
    (db.putSource source').sources.map (fun s => (s.id, s.cityId))
      = db.sources.map (fun s => (s.id, s.cityId)) := by
  -- the row that is written keeps the id and the city of the one it is written over
  have hget' : getRow Source.id db.sources source'.id = some source := hid ▸ hget
  exact setRow_map Source.id hnd hget' (Prod.ext hid hcity)

/-- The rows of a batch hang under one city and take consecutive ids. -/
theorem mem_sourceRows {cityId next : Nat} {sources : List SourceCreate} {s : Source}
    (h : s ∈ sourceRows cityId next sources) :
    s.cityId = cityId ∧ s.archivedAt = none ∧ next ≤ s.id ∧ s.id < next + sources.length := by
  induction sources generalizing next with
  | nil => cases h
  | cons data rest ih =>
      rcases List.mem_cons.mp h with rfl | h
      · exact ⟨rfl, rfl, le_refl _, by simp⟩
      · obtain ⟨hcity, harch, hge, hlt⟩ := ih h
        exact ⟨hcity, harch, by omega, by simp only [List.length_cons]; omega⟩

theorem sourceRows_nodup (cityId next : Nat) (sources : List SourceCreate) :
    ((sourceRows cityId next sources).map Source.id).Nodup := by
  induction sources generalizing next with
  | nil => exact List.nodup_nil
  | cons data rest ih =>
      refine List.nodup_cons.mpr ⟨?_, ih (next + 1)⟩
      intro h
      obtain ⟨s, hs, hid⟩ := List.mem_map.mp h
      have hge := (mem_sourceRows hs).2.2.1
      simp only [SourceCreate.row_id] at hid
      omega

theorem sourceRows_length (cityId next : Nat) (sources : List SourceCreate) :
    (sourceRows cityId next sources).length = sources.length := by
  induction sources generalizing next with
  | nil => rfl
  | cons data rest ih => simp only [sourceRows, List.length_cons, ih]

theorem Db.Keyed.putSource {db : Db} {source source' : Source} (h : db.Keyed)
    (hget : db.getSource source.id = some source) (hid : source'.id = source.id)
    (hcity : source'.cityId = source.cityId) : (db.putSource source').Keyed :=
  h.of_same_keys rfl rfl (putSource_pairs hget hid hcity h.source_nodup) rfl

/-- A cascade over the sources stamps rows and moves none. -/
theorem Db.Keyed.cascade {db : Db} (h : db.Keyed) (city : City) {stamp : Source → Source}
    (hstamp : ∀ s, (stamp s).id = s.id ∧ (stamp s).cityId = s.cityId) :
    ({ db.putCity city with sources := db.sources.map stamp } : Db).Keyed := by
  refine h.of_same_keys (setRow_keys City.id _ _) rfl ?_ rfl
  show (db.sources.map stamp).map _ = _
  rw [List.map_map]
  refine List.map_congr_left ?_
  intro s _
  simp [hstamp s]

theorem createCity_keyed {P : Platform} {settings : Settings} {db db' : Db} {data : CityCreate}
    (h : db.Keyed) (hrun : createCity P settings db data = .ok db') : db'.Keyed := by
  obtain ⟨-, -, rfl⟩ := createCity_ok hrun
  -- the city takes the next id of its sequence, its sources the next ones of theirs
  refine ⟨?_, ?_, ?_, ?_, ?_⟩
  · exact keys_nodup_insert City.id h.city_nodup fun c hc => (h.city_fresh c hc).ne
  · exact @keys_lt_insert _ City.id _ _ h.city_fresh
  · refine keys_nodup_append Source.id h.source_nodup (sourceRows_nodup _ _ _) ?_
    intro s hs t ht
    exact (lt_of_lt_of_le (h.source_fresh s hs) (mem_sourceRows ht).2.2.1).ne
  · intro s hs
    rcases List.mem_append.mp hs with hs | hs
    · exact lt_of_lt_of_le (h.source_fresh s hs) (Nat.le_add_right _ _)
    · exact (mem_sourceRows hs).2.2.2
  · intro s hs
    rcases List.mem_append.mp hs with hs | hs
    · obtain ⟨c, hc, hid⟩ := h.source_city s hs
      exact ⟨c, List.mem_append_left _ hc, hid⟩
    · refine ⟨_, List.mem_append_right _ (List.mem_singleton_self _), ?_⟩
      exact (mem_sourceRows hs).1.symm

theorem addSource_keyed {settings : Settings} {db db' : Db} {cityId : Nat} {data : SourceCreate}
    (h : db.Keyed) (hrun : addSource settings db cityId data = .ok db') : db'.Keyed := by
  obtain ⟨city, hcity, hid, -, rfl⟩ := addSource_ok hrun
  -- the source takes the next id and hangs under the city that was found
  refine ⟨h.city_nodup, h.city_fresh, ?_, ?_, ?_⟩
  · exact keys_nodup_insert Source.id h.source_nodup fun s hs => (h.source_fresh s hs).ne
  · exact @keys_lt_insert _ Source.id _ _ h.source_fresh
  · intro s hs
    rcases List.mem_append.mp hs with hs | hs
    · exact h.source_city s hs
    · rw [List.mem_singleton.mp hs]
      exact ⟨city, (getRow_some City.id hcity).1, hid⟩

/-- **The keys hold in every reachable database**: one successful call. -/
theorem OnboardingCall.run_keyed {P : Platform} {settings : Settings} {db db' : Db}
    {call : OnboardingCall} (h : db.Keyed) (hrun : call.run P settings db = .ok db') :
    db'.Keyed := by
  cases call with
  | createCity data => exact createCity_keyed h hrun
  | addSource cityId data => exact addSource_keyed h hrun
  | updateSource sourceId data =>
      obtain ⟨source, source', hget, happly, rfl⟩ := updateSource_ok hrun
      obtain ⟨hplace, -⟩ := SourceUpdate.apply_ok happly
      exact h.putSource (Db.getSource_self hget) hplace.id hplace.cityId
  | archiveSource sourceId now =>
      obtain ⟨source, hget, rfl⟩ := archiveSource_ok hrun
      exact h.putSource (Db.getSource_self hget) rfl rfl
  -- flags are set on the rows; no key changes
  | archiveCity cityId now =>
      obtain ⟨city, hcity, hid, rfl⟩ := archiveCity_ok hrun
      refine h.cascade _ ?_
      intro s
      unfold archiveWithCity
      split <;> exact ⟨rfl, rfl⟩
  | unarchiveCity cityId =>
      obtain ⟨city, hcity, hid, rfl⟩ := unarchiveCity_ok hrun
      refine h.cascade _ ?_
      intro s
      unfold reviveWithCity
      split <;> exact ⟨rfl, rfl⟩
  | updateCity cityId data =>
      obtain ⟨city, city', hcity, happly, rfl⟩ := updateCity_ok hrun
      exact h.of_same_keys (setRow_keys City.id _ _) rfl rfl rfl

theorem onboardingStep_keyed {P : Platform} {settings : Settings} {db db' : Db}
    {call : OnboardingCall} (h : db.Keyed) (hstep : onboardingStep P settings db call = some db') :
    db'.Keyed :=
  onboardingStep_keeps hstep h fun hrun => call.run_keyed h hrun

/-- **The run rule of the calls**: a property that a successful call keeps exactly
under a condition, which a refused call meets, holds throughout a run exactly
if the run's calls all meet it. -/
theorem onboardingStep_iff {P : Platform} {settings : Settings} {I : Db → Prop}
    {C : Db → OnboardingCall → Prop}
    (hcall : ∀ db db' call, db.Keyed → I db → OnboardingCall.run P settings db call = .ok db' →
      (I db' ↔ C db call))
    (hrefused : ∀ db call e, OnboardingCall.run P settings db call = .error e → C db call)
    (hempty : I Db.empty) (calls : List OnboardingCall) :
    Throughout (onboardingStep P settings) I Db.empty calls
      ↔ Along (onboardingStep P settings) C Db.empty calls := by
  -- unique keys carry the step lemma, and hold in every state
  refine throughout_iff_along (J := Db.Keyed) ?_ ?_ ?_ Db.empty_keyed hempty
  · intro db call db' hkeyed hstep
    exact onboardingStep_keyed hkeyed hstep
  · intro db call db' hkeyed h hstep
    unfold onboardingStep at hstep
    split at hstep
    · next hrun =>
        cases hstep
        exact hcall _ _ _ hkeyed h hrun
    · next hrun =>
        cases hstep
        exact iff_of_true h (hrefused _ _ _ hrun)
  · intro db call hstep
    unfold onboardingStep at hstep
    split at hstep <;> cases hstep

/-! ## §2. An archived city has no live feed. -/

/-- Every source of an archived city is archived. -/
def ArchivedSilent (db : Db) : Prop :=
  ∀ city ∈ db.cities, city.archivedAt ≠ none →
    ∀ source ∈ db.sources, source.cityId = city.id → source.archivedAt ≠ none

/-- No target of a tick belongs to an archived city. -/
def PollsLiveCities (db : Db) : Prop :=
  ∀ now settings, ∀ t ∈ loadDueTargets db now settings, ∀ source ∈ db.sources,
    source.id = t.sourceId → ∀ city ∈ db.cities, city.id = source.cityId →
      city.archivedAt = none

/-- The scheduler looks only at the source row, and that is enough. -/
theorem pollsLiveCities_of_silent {db : Db} (hkeyed : db.Keyed) (h : ArchivedSilent db) :
    PollsLiveCities db := by
  intro now settings t ht source hs hid city hc hcity
  obtain ⟨polled, hmem, hpolled, rfl⟩ := mem_loadDueTargets ht
  have hsame : source = polled := List.inj_on_of_nodup_map hkeyed.source_nodup hs hmem hid
  by_contra harch
  refine h city hc harch source hs hcity.symm ?_
  rw [hsame]
  simpa [Source.polled] using (Bool.and_eq_true_iff.mp hpolled).2

/-- Silence depends on the two columns `archived_at` only, and survives any
change that revives neither a source nor, on the city's side, archives one. -/
theorem ArchivedSilent.of_rows {db db' : Db} (h : ArchivedSilent db)
    (hcities : ∀ city ∈ db'.cities, city.archivedAt ≠ none →
      ∃ old ∈ db.cities, old.id = city.id ∧ old.archivedAt ≠ none)
    (hsources : ∀ source ∈ db'.sources, source.archivedAt = none →
      ∃ old ∈ db.sources, old.cityId = source.cityId ∧ old.archivedAt = none) :
    ArchivedSilent db' := by
  intro city hc harch source hs hcity hlive
  obtain ⟨oldCity, hoc, hoid, hoarch⟩ := hcities city hc harch
  obtain ⟨oldSource, hos, hocity, holive⟩ := hsources source hs hlive
  exact h oldCity hoc hoarch oldSource hos (hocity.trans (hcity.trans hoid.symm)) holive

/-- A feed is added to a city that is not archived; the calls that are refused,
or add no feed, meet this for nothing. -/
def AddsToLiveCity (settings : Settings) (db : Db) : OnboardingCall → Prop
  | .addSource cityId _ => ∀ city, db.getCity cityId = some city →
      (sourceCount db cityId : Int) < settings.maxSourcesPerCity → city.archivedAt = none
  | _ => True

section Silent

variable {P : Platform} {settings : Settings} {db db' : Db}

theorem createCity_silent {data : CityCreate} (hkeyed : db.Keyed) (h : ArchivedSilent db)
    (hrun : createCity P settings db data = .ok db') : ArchivedSilent db' := by
  obtain ⟨-, -, rfl⟩ := createCity_ok hrun
  intro city hc harch source hs hcity
  rcases List.mem_append.mp hc with hc | hc
  · rcases List.mem_append.mp hs with hs | hs
    · exact h city hc harch source hs hcity
    · -- the new rows hang under the fresh id, which no stored city has
      have hlt := hkeyed.city_fresh city hc
      rw [(mem_sourceRows hs).1] at hcity
      omega
  · -- the new city is not archived
    rw [List.mem_singleton.mp hc] at harch
    exact absurd rfl harch

/-- **An added feed breaks the silence exactly if its city is archived.** -/
theorem addSource_silent_iff {cityId : Nat} {data : SourceCreate} (hkeyed : db.Keyed)
    (h : ArchivedSilent db) (hrun : addSource settings db cityId data = .ok db') :
    ArchivedSilent db' ↔ AddsToLiveCity settings db (.addSource cityId data) := by
  obtain ⟨city, hget, hid, hcap, rfl⟩ := addSource_ok hrun
  constructor
  · -- the new feed is live, so its city cannot be archived
    intro hsilent city' hget' _
    by_contra harch
    have hmem := (getRow_some City.id hget').1
    have hid' : city'.id = cityId := (getRow_some City.id hget').2
    exact hsilent city' hmem harch (data.row db.nextSource cityId)
      (List.mem_append_right _ (List.mem_singleton_self _)) hid'.symm rfl
  · -- an archived city is not the one the feed was added to
    intro hlive city' hc harch source hs hcity
    rcases List.mem_append.mp hs with hs | hs
    · exact h city' hc harch source hs hcity
    · rw [List.mem_singleton.mp hs] at hcity
      have hget' : db.getCity cityId = some city' := by
        rw [show cityId = city'.id from hcity]
        exact getRow_of_mem City.id hkeyed.city_nodup hc
      exact absurd (hlive city' hget' hcap) harch

theorem updateSource_silent {sourceId : Nat} {data : SourceUpdate} (h : ArchivedSilent db)
    (hrun : updateSource db sourceId data = .ok db') : ArchivedSilent db' := by
  obtain ⟨source, source', hget, happly, rfl⟩ := updateSource_ok hrun
  obtain ⟨hplace, -⟩ := SourceUpdate.apply_ok happly
  -- a PATCH cannot reach `city_id` or `archived_at`
  refine h.of_rows (fun city hc harch => ⟨city, hc, rfl, harch⟩) ?_
  intro s hs hlive
  rcases (mem_setRow Source.id).mp hs with ⟨rfl, -⟩ | ⟨hmem, -⟩
  · exact ⟨source, (getRow_some Source.id hget).1, hplace.cityId.symm,
      hplace.archivedAt ▸ hlive⟩
  · exact ⟨s, hmem, rfl, hlive⟩

theorem archiveSource_silent {sourceId : Nat} {now : Time} (h : ArchivedSilent db)
    (hrun : archiveSource db sourceId now = .ok db') : ArchivedSilent db' := by
  obtain ⟨source, hget, rfl⟩ := archiveSource_ok hrun
  refine h.of_rows (fun city hc harch => ⟨city, hc, rfl, harch⟩) ?_
  intro s hs hlive
  rcases (mem_setRow Source.id).mp hs with ⟨rfl, -⟩ | ⟨hmem, -⟩
  · exact absurd hlive (by simp)
  · exact ⟨s, hmem, rfl, hlive⟩

theorem archiveCity_silent {cityId : Nat} {now : Time} (h : ArchivedSilent db)
    (hrun : archiveCity db cityId now = .ok db') : ArchivedSilent db' := by
  obtain ⟨city, hget, hid, rfl⟩ := archiveCity_ok hrun
  intro city' hc harch source hs hcity
  obtain ⟨old, hold, rfl⟩ := List.mem_map.mp hs
  unfold archiveWithCity at hcity ⊢
  split
  · -- stamped by the cascade
    simp
  · next hcond =>
      -- of another city, or archived before
      rw [if_neg hcond] at hcity
      rcases (mem_setRow City.id).mp hc with ⟨rfl, -⟩ | ⟨hmem, -⟩
      · intro hnone
        exact hcond ⟨hcity.trans hid, hnone⟩
      · exact h city' hmem harch old hold hcity

theorem unarchiveCity_silent {cityId : Nat} (h : ArchivedSilent db)
    (hrun : unarchiveCity db cityId = .ok db') : ArchivedSilent db' := by
  obtain ⟨city, hget, hid, rfl⟩ := unarchiveCity_ok hrun
  intro city' hc harch source hs hcity
  obtain ⟨old, hold, rfl⟩ := List.mem_map.mp hs
  rcases (mem_setRow City.id).mp hc with ⟨rfl, -⟩ | ⟨hmem, hne⟩
  · -- the city itself is not archived any more
    exact absurd rfl harch
  · unfold reviveWithCity at hcity ⊢
    split
    · next hcond =>
        -- the revived sources are those of a city that is not archived now
        rw [if_pos hcond] at hcity
        exact absurd (hcity.symm.trans (hcond.trans hid.symm)) hne
    · next hcond =>
        rw [if_neg hcond] at hcity
        exact h city' hmem harch old hold hcity

theorem updateCity_silent {cityId : Nat} {data : CityUpdate} (h : ArchivedSilent db)
    (hrun : updateCity db cityId data = .ok db') : ArchivedSilent db' := by
  obtain ⟨city, city', hget, happly, rfl⟩ := updateCity_ok hrun
  obtain ⟨hid, -, harchived⟩ := CityUpdate.apply_ok happly
  refine h.of_rows ?_ fun s hs hlive => ⟨s, hs, rfl, hlive⟩
  intro c hc harch
  rcases (mem_setRow City.id).mp hc with ⟨rfl, -⟩ | ⟨hmem, -⟩
  · exact ⟨city, (getRow_some City.id hget).1, hid.symm, harchived ▸ harch⟩
  · exact ⟨c, hmem, rfl, harch⟩

/-- **One successful call keeps the archived cities silent exactly if it adds
to no archived city.** -/
theorem OnboardingCall.run_silent_iff {call : OnboardingCall} (hkeyed : db.Keyed)
    (h : ArchivedSilent db) (hrun : call.run P settings db = .ok db') :
    ArchivedSilent db' ↔ AddsToLiveCity settings db call := by
  cases call with
  | createCity data => exact iff_of_true (createCity_silent hkeyed h hrun) trivial
  | addSource cityId data => exact addSource_silent_iff hkeyed h hrun
  | updateSource sourceId data => exact iff_of_true (updateSource_silent h hrun) trivial
  | archiveSource sourceId now => exact iff_of_true (archiveSource_silent h hrun) trivial
  | archiveCity cityId now => exact iff_of_true (archiveCity_silent h hrun) trivial
  | unarchiveCity cityId => exact iff_of_true (unarchiveCity_silent h hrun) trivial
  | updateCity cityId data => exact iff_of_true (updateCity_silent h hrun) trivial

end Silent

/-- A refused call meets `AddsToLiveCity`. -/
theorem addsToLiveCity_of_refused {P : Platform} {settings : Settings} {db : Db}
    {call : OnboardingCall} {e : OnboardingError} (hrun : call.run P settings db = .error e) :
    AddsToLiveCity settings db call := by
  cases call with
  | addSource cityId data =>
      -- the call was refused, so the cap was reached or the city is not there
      intro city hget hcap
      exfalso
      have hid : city.id = cityId := (getRow_some City.id hget).2
      simp only [OnboardingCall.run, addSource, getCity_of_some hget, hid, bind, Except.bind,
        pure, Except.pure] at hrun
      rw [if_neg (by omega)] at hrun
      cases hrun
  | _ => trivial

/-- **ARCHIVED CITIES STAY SILENT** through a run of calls, and the scheduler
polls none of their feeds, exactly if no call adds a feed to an archived city. -/
theorem archived_silent_iff (P : Platform) (settings : Settings) (calls : List OnboardingCall) :
    Throughout (onboardingStep P settings) (fun db => ArchivedSilent db ∧ PollsLiveCities db)
        Db.empty calls
      ↔ Along (onboardingStep P settings) (AddsToLiveCity settings) Db.empty calls := by
  refine onboardingStep_iff ?_ ?_ ?_ calls
  · intro db db' call hkeyed h hrun
    -- what is polled follows from what is silent, in both directions of the step
    rw [← call.run_silent_iff hkeyed h.1 hrun]
    constructor
    · exact fun h' => h'.1
    · exact fun h' => ⟨h', pollsLiveCities_of_silent (call.run_keyed hkeyed hrun) h'⟩
  · intro db call e hrun
    exact addsToLiveCity_of_refused hrun
  · have hsilent : ArchivedSilent Db.empty := by
      intro city hc
      cases hc
    exact ⟨hsilent, pollsLiveCities_of_silent Db.empty_keyed hsilent⟩

/-- A feed is added to a city that was archived. -/
def addToArchived : List OnboardingCall :=
  [.createCity { name := "Nagpur".toList, sources := [testTimes] }, .archiveCity 1 0,
    .addSource 1 testTimes]

/-- The added feed is live, and the next tick polls it. -/
theorem addToArchived_polled :
    ∃ db, Run (onboardingStep feedless defaultSettings) Db.empty addToArchived db
      ∧ ¬ ArchivedSilent db ∧ ¬ PollsLiveCities db := by
  refine ⟨_, run_iff_exec.mpr rfl, ?_, ?_⟩
  · intro h
    exact h _ (.head _) (by decide) _ (.tail _ (.head _)) rfl rfl
  · intro h
    exact absurd (h 0 defaultSettings _ (.head _) _ (.tail _ (.head _)) rfl _ (.head _) rfl)
      (by decide)

/-! ## §3. The source cap. -/

/-- No city has more live sources than the cap. -/
def UnderCap (settings : Settings) (db : Db) : Prop :=
  ∀ city ∈ db.cities, (sourceCount db city.id : Int) ≤ settings.maxSourcesPerCity

/-- A live source of one city. -/
def Source.liveIn (cityId : Nat) (source : Source) : Bool :=
  source.cityId = cityId && source.archivedAt = none

theorem Source.liveIn_iff {cityId : Nat} {source : Source} :
    source.liveIn cityId = true ↔ source.cityId = cityId ∧ source.archivedAt = none := by
  simp [Source.liveIn]

theorem sourceCount_eq (db : Db) (cityId : Nat) :
    sourceCount db cityId = db.sources.countP (·.liveIn cityId) := by
  unfold sourceCount liveSources citySources
  rw [List.filter_filter, ← List.countP_eq_length_filter]
  refine List.countP_congr ?_
  intro source _
  simp only [Source.liveIn, Bool.and_comm]

/-- Rewriting rows one by one raises no count when no row comes alive. -/
theorem countP_map_le {cityId : Nat} {sources : List Source} {f : Source → Source}
    (hf : ∀ s ∈ sources, (f s).liveIn cityId = true → s.liveIn cityId = true) :
    (sources.map f).countP (·.liveIn cityId) ≤ sources.countP (·.liveIn cityId) := by
  rw [List.countP_map]
  exact List.countP_mono_left hf

/-- Writing back a row that was not revived raises no count. -/
theorem putSource_count_le {db : Db} {source source' : Source} (hkeyed : db.Keyed)
    (hget : db.getSource source.id = some source) (hid : source'.id = source.id)
    (hlive : ∀ cityId, source'.liveIn cityId = true → source.liveIn cityId = true)
    (cityId : Nat) : sourceCount (db.putSource source') cityId ≤ sourceCount db cityId := by
  rw [sourceCount_eq, sourceCount_eq]
  refine countP_map_le ?_
  intro s hs hlive'
  -- only the source that is written can change its count
  split at hlive'
  · next h =>
      have hsource := (getRow_some Source.id hget).1
      have heq : s = source :=
        List.inj_on_of_nodup_map hkeyed.source_nodup hs hsource (h.trans hid)
      rw [heq]
      exact hlive cityId hlive'
  · exact hlive'

/-- The rows of a batch count for their own city only. -/
theorem countP_sourceRows_le (cityId next other : Nat) (sources : List SourceCreate) :
    (sourceRows cityId next sources).countP (·.liveIn other)
      ≤ if cityId = other then sources.length else 0 := by
  split
  · exact (List.countP_le_length).trans (sourceRows_length _ _ _).le
  · next hne =>
      rw [Nat.le_zero, List.countP_eq_zero]
      intro s hs hlive
      exact hne ((mem_sourceRows hs).1.symm.trans (Source.liveIn_iff.mp hlive).1)

/-- A fresh city id has no source. -/
theorem count_fresh {db : Db} (hkeyed : db.Keyed) :
    db.sources.countP (·.liveIn db.nextCity) = 0 := by
  rw [List.countP_eq_zero]
  intro s hs hlive
  exact absurd (Source.liveIn_iff.mp hlive).1 (hkeyed.source_fresh_city hs).ne

/-- After the cascade every source of the city counts. -/
theorem count_revived (sources : List Source) (cityId other : Nat) :
    (sources.map (reviveWithCity cityId)).countP (·.liveIn other)
      = if other = cityId then (sources.filter fun s => s.cityId = cityId).length
        else sources.countP (·.liveIn other) := by
  rw [List.countP_map]
  -- reviving makes every source of the city live, the retired ones too
  split
  · next h =>
      subst h
      rw [← List.countP_eq_length_filter]
      refine List.countP_congr ?_
      intro s _
      by_cases hs : s.cityId = other <;> simp [reviveWithCity, Source.liveIn, hs]
  · next h =>
      refine List.countP_congr ?_
      intro s _
      by_cases hs : s.cityId = cityId
      · have hne : ¬ cityId = other := fun h' => h h'.symm
        simp [reviveWithCity, Source.liveIn, hs, hne]
      · simp [reviveWithCity, Source.liveIn, hs]

/-- A revived city has, archived feeds included, no more feeds than the cap;
the other calls, and a revival that finds no city, meet this for nothing. -/
def RevivesWithinCap (settings : Settings) (db : Db) : OnboardingCall → Prop
  | .unarchiveCity cityId => db.getCity cityId ≠ none →
      ((citySources db cityId).length : Int) ≤ settings.maxSourcesPerCity
  | _ => True

/-- The cap survives any change that adds no city and raises no count. -/
theorem UnderCap.of_count {settings : Settings} {db db' : Db} (h : UnderCap settings db)
    (hcities : ∀ city ∈ db'.cities, ∃ old ∈ db.cities, old.id = city.id)
    (hcount : ∀ cityId, sourceCount db' cityId ≤ sourceCount db cityId) :
    UnderCap settings db' := by
  intro city hc
  obtain ⟨old, hold, hid⟩ := hcities city hc
  have hle := hcount city.id
  have hcap := h old hold
  rw [hid] at hcap
  omega

/-- Writing a city back brings no new id. -/
theorem setCity_ids {cities : List City} (row : City) :
    ∀ city ∈ setRow City.id row cities, ∃ old ∈ cities, old.id = city.id := by
  intro city hc
  rcases (mem_setRow City.id).mp hc with ⟨rfl, hmem⟩ | ⟨hmem, -⟩
  · obtain ⟨old, hold, hid⟩ := List.mem_map.mp hmem
    exact ⟨old, hold, hid⟩
  · exact ⟨city, hmem, rfl⟩

section UnderCap

variable {P : Platform} {settings : Settings} {db db' : Db}

theorem createCity_underCap {data : CityCreate} (hkeyed : db.Keyed) (h : UnderCap settings db)
    (hrun : createCity P settings db data = .ok db') : UnderCap settings db' := by
  obtain ⟨hcap, -, rfl⟩ := createCity_ok hrun
  intro city hc
  rw [sourceCount_eq, List.countP_append]
  have hrows := countP_sourceRows_le db.nextCity db.nextSource city.id data.sources
  rcases List.mem_append.mp hc with hc | hc
  · -- the batch is not for a city that was there
    have hlt := hkeyed.city_fresh city hc
    rw [if_neg (by omega)] at hrows
    have hold := h city hc
    rw [sourceCount_eq] at hold
    omega
  · -- the new city has the batch and nothing else, and the cap was checked
    rw [List.mem_singleton.mp hc] at hrows ⊢
    have hfresh := count_fresh hkeyed
    simp only [CityCreate.row, if_true] at hrows ⊢
    omega

theorem addSource_underCap {cityId : Nat} {data : SourceCreate} (h : UnderCap settings db)
    (hrun : addSource settings db cityId data = .ok db') : UnderCap settings db' := by
  obtain ⟨city, hget, hid, hcap, rfl⟩ := addSource_ok hrun
  intro city' hc
  have hold := h city' hc
  rw [sourceCount_eq] at hold hcap ⊢
  rw [List.countP_append, List.countP_singleton]
  by_cases heq : city'.id = cityId
  · -- one more, under the cap that was checked
    rw [heq]
    split <;> omega
  · rw [if_neg]
    · omega
    · intro hlive
      exact heq (Source.liveIn_iff.mp hlive).1.symm

/-- **A revival exceeds the cap exactly if all the feeds of its city do.** -/
theorem unarchiveCity_underCap_iff {cityId : Nat} (h : UnderCap settings db)
    (hrun : unarchiveCity db cityId = .ok db') :
    UnderCap settings db' ↔ RevivesWithinCap settings db (.unarchiveCity cityId) := by
  obtain ⟨city, hget, hid, rfl⟩ := unarchiveCity_ok hrun
  have hmem : city ∈ db.cities := (getRow_some City.id hget).1
  -- the count after the revival is that of all its feeds
  constructor
  · intro hcap _
    have hkeys : city.id ∈ db.cities.map City.id := List.mem_map_of_mem hmem
    have hrow := hcap { city with archivedAt := none }
      ((mem_setRow City.id).mpr (Or.inl ⟨rfl, hkeys⟩))
    rw [sourceCount_eq] at hrow
    simp only [count_revived, hid, if_true] at hrow
    exact hrow
  · intro hfits city' hc
    rw [sourceCount_eq]
    simp only [count_revived]
    split
    · exact hfits (by rw [hget]; exact Option.some_ne_none _)
    · obtain ⟨old, hold, hoid⟩ := setCity_ids _ city' hc
      have hcap := h old hold
      rwa [sourceCount_eq, hoid] at hcap

/-- **One successful call keeps the cap exactly if it revives within it.** -/
theorem OnboardingCall.run_underCap_iff {call : OnboardingCall} (hkeyed : db.Keyed)
    (h : UnderCap settings db) (hrun : call.run P settings db = .ok db') :
    UnderCap settings db' ↔ RevivesWithinCap settings db call := by
  cases call with
  | createCity data => exact iff_of_true (createCity_underCap hkeyed h hrun) trivial
  | addSource cityId data => exact iff_of_true (addSource_underCap h hrun) trivial
  | updateSource sourceId data =>
      obtain ⟨source, source', hget, happly, rfl⟩ := updateSource_ok hrun
      obtain ⟨hplace, -⟩ := SourceUpdate.apply_ok happly
      refine iff_of_true (h.of_count (fun city hc => ⟨city, hc, rfl⟩) ?_) trivial
      refine putSource_count_le hkeyed (Db.getSource_self hget) hplace.id ?_
      intro cityId hlive
      simpa only [Source.liveIn, hplace.cityId, hplace.archivedAt] using hlive
  | archiveSource sourceId now =>
      obtain ⟨source, hget, rfl⟩ := archiveSource_ok hrun
      refine iff_of_true (h.of_count (fun city hc => ⟨city, hc, rfl⟩) ?_) trivial
      refine putSource_count_le hkeyed (Db.getSource_self hget) rfl ?_
      intro cityId hlive
      simp [Source.liveIn] at hlive
  -- archiving can only lower a count
  | archiveCity cityId now =>
      obtain ⟨city, hget, hid, rfl⟩ := archiveCity_ok hrun
      refine iff_of_true (h.of_count (setCity_ids _) ?_) trivial
      intro other
      rw [sourceCount_eq, sourceCount_eq]
      refine countP_map_le ?_
      intro s _ hlive
      unfold archiveWithCity at hlive
      split at hlive
      · simp [Source.liveIn] at hlive
      · exact hlive
  -- the one call that raises a count without a check
  | unarchiveCity cityId => exact unarchiveCity_underCap_iff h hrun
  | updateCity cityId data =>
      obtain ⟨city, city', hget, happly, rfl⟩ := updateCity_ok hrun
      exact iff_of_true (h.of_count (setCity_ids _) fun _ => le_refl _) trivial

end UnderCap

/-- A refused call meets `RevivesWithinCap`. -/
theorem revivesWithinCap_of_refused {P : Platform} {settings : Settings} {db : Db}
    {call : OnboardingCall} {e : OnboardingError} (hrun : call.run P settings db = .error e) :
    RevivesWithinCap settings db call := by
  cases call with
  | unarchiveCity cityId =>
      intro hne
      exfalso
      obtain ⟨city, hget⟩ := Option.ne_none_iff_exists'.mp hne
      simp [OnboardingCall.run, unarchiveCity, getCity_of_some hget, bind, Except.bind, pure,
        Except.pure] at hrun
  | _ => trivial

/-- **THE CAP HOLDS** through a run of calls exactly if no revival brings back
more feeds than the cap. -/
theorem cap_kept_iff (P : Platform) (settings : Settings) (calls : List OnboardingCall) :
    Throughout (onboardingStep P settings) (UnderCap settings) Db.empty calls
      ↔ Along (onboardingStep P settings) (RevivesWithinCap settings) Db.empty calls := by
  refine onboardingStep_iff ?_ ?_ ?_ calls
  · intro db db' call hkeyed h hrun
    exact call.run_underCap_iff hkeyed h hrun
  · intro db call e hrun
    exact revivesWithinCap_of_refused hrun
  · intro city hc
    cases hc

/-- Six feeds pass through a cap of five, one archived before the sixth, and
the city is archived and brought back. -/
def reviveRetired : List OnboardingCall :=
  [.createCity
      { name := "Nagpur".toList
        sources := [testTimes, testTimes, testTimes, testTimes, testTimes] },
    .archiveSource 1 0, .addSource 1 testTimes, .archiveCity 1 1, .unarchiveCity 1]

/-- The retired feed comes back with the others. -/
theorem reviveRetired_over_cap :
    ∃ db, Run (onboardingStep feedless defaultSettings) Db.empty reviveRetired db
      ∧ sourceCount db 1 = 6 ∧ ¬ UnderCap defaultSettings db := by
  refine ⟨_, run_iff_exec.mpr rfl, rfl, ?_⟩
  intro h
  exact absurd (h _ (.head _)) (by decide)

end Feedcast
