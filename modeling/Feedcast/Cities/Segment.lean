/-
  Feedcast.Cities.Segment — from the segment of a link to the city it names.

  The slug of a city is its name, trimmed and folded; `extract_city` folds the
  segment of a link as it stands there, encoded.  The two meet on the names that
  encoding leaves alone, and on no other.

    • `citySegment_eq_some` — which segment is read,
    • `citySlugMap_stored` — what a stored city's slug resolves to, at any time,
    • `segmentResolves_iff` — when a city's own segment resolves to it.
-/
import Feedcast.Cities.Onboarding
import Feedcast.Core.Percent
import Feedcast.Ingest.Identity
import Feedcast.Lib.Words

namespace Feedcast

open Feedcast.Lib

/-! ## §1. The property. -/

/-- The segments of a path, the empty ones left out. -/
def pathSegments (path : Str) : List Str := (path.splitOn '/').filter (· ≠ [])

/-- The segment behind the first `city` segment, in any letter case, is the
percent-encoded form of the name, in any letter case. -/
def NamesCity (P : Platform) (name : Str) (segments : List Str) : Prop :=
  ∃ before city segment after, segments = before ++ city :: segment :: after
    ∧ (∀ s ∈ before, P.casefold s ≠ "city".toList) ∧ P.casefold city = "city".toList
    ∧ P.casefold segment = P.casefold (percentEncode (strip name))

/-- The city was created from `data` as number `id`; other calls came before
and after. -/
def CityStored (P : Platform) (settings : Settings) (data : CityCreate) (db : Db) (id : Nat) :
    Prop :=
  ∃ earlier db₀ created later, Run (onboardingStep P settings) Db.empty earlier db₀
    ∧ createCity P settings db₀ data = .ok created ∧ id = db₀.nextCity
    ∧ Run (onboardingStep P settings) created later db

/-- **A city's own segment resolves to it**, and no other link does: what is
extracted is the slug as it was stored, and it is looked up as that city. -/
structure SegmentResolves (P : Platform) (data : CityCreate) : Prop where
  extracted : ∀ settings db id city, CityStored P settings data db id → db.getCity id = some city →
    ∀ link parts, urlsplit P link = .ok parts →
      NamesCity P data.name (pathSegments parts.path) →
      extractCity P link = .ok (some city.slug)
  resolved : ∀ settings db id, CityStored P settings data db id →
    ∀ source entry position row,
      normalizeEntry P source entry position (citySlugMap db.cities) = .ok (some row) →
      (row.cityId = some id ↔ ∃ parts, urlsplit P row.url = .ok parts
        ∧ NamesCity P data.name (pathSegments parts.path))

/-! ## §2. The segment that is read. -/

/-- **The segment behind the first `city` segment that has one behind it.** -/
theorem citySegment_eq_some {P : Platform} {segments : List Str} {city : Str} :
    citySegment P segments = some city ↔
      ∃ before word segment after, segments = before ++ word :: segment :: after
        ∧ (∀ s ∈ before, P.casefold s ≠ "city".toList) ∧ P.casefold word = "city".toList
        ∧ P.casefold segment = city := by
  induction segments with
  | nil => simp [citySegment]
  | cons first rest ih =>
      cases rest with
      | nil =>
          refine iff_of_false (by simp [citySegment]) ?_
          intro h
          obtain ⟨before, word, segment, after, hsegs, -⟩ := h
          have hlength := congrArg List.length hsegs
          simp only [List.length_append, List.length_cons, List.length_nil] at hlength
          omega
      | cons next rest =>
          rw [citySegment]
          by_cases hfirst : P.casefold first = "city".toList
          · rw [if_pos hfirst, Option.some.injEq]
            constructor
            · intro h
              exact ⟨[], first, next, rest, rfl, by simp, hfirst, h⟩
            · intro h
              obtain ⟨before, word, segment, after, hsegs, hbefore, -, hcity⟩ := h
              cases before with
              | nil =>
                  obtain ⟨-, hrest⟩ := List.cons.inj hsegs
                  rw [(List.cons.inj hrest).1]
                  exact hcity
              | cons s before =>
                  -- the first segment would not come before it
                  refine absurd hfirst ?_
                  rw [(List.cons.inj hsegs).1]
                  exact hbefore s List.mem_cons_self
          · rw [if_neg hfirst, ih]
            constructor
            · intro h
              obtain ⟨before, word, segment, after, hsegs, hbefore, hword, hcity⟩ := h
              refine ⟨first :: before, word, segment, after, by rw [hsegs]; rfl, ?_, hword, hcity⟩
              exact List.forall_mem_cons.mpr ⟨hfirst, hbefore⟩
            · intro h
              obtain ⟨before, word, segment, after, hsegs, hbefore, hword, hcity⟩ := h
              cases before with
              | nil =>
                  rw [(List.cons.inj hsegs).1] at hfirst
                  exact absurd hword hfirst
              | cons s before =>
                  exact ⟨before, word, segment, after, (List.cons.inj hsegs).2,
                    (List.forall_mem_cons.mp hbefore).2, hword, hcity⟩

theorem extractCity_of_split {P : Platform} {link : Str} {parts : SplitResult}
    (h : urlsplit P link = .ok parts) :
    extractCity P link = .ok (citySegment P (pathSegments parts.path)) := by
  unfold extractCity
  rw [h]
  rfl

/-- What an entry's row takes from its link. -/
theorem normalizeEntry_city {P : Platform} {source : Source} {entry : Entry} {position : Nat}
    {cities : Str → Option Nat} {row : ArticleRow}
    (h : normalizeEntry P source entry position cities = .ok (some row)) :
    ∃ parts, urlsplit P row.url = .ok parts
      ∧ row.cityId = (truthy (citySegment P (pathSegments parts.path))).bind cities := by
  obtain ⟨_, _, parsedCity, -, -, -, -, hcity, -, -, hcityId⟩ := normalizeEntry_row h
  obtain ⟨parts, hsplit, hsegment⟩ := except_bind_ok.mp hcity
  refine ⟨parts, hsplit, ?_⟩
  rw [hcityId, ← Except.ok.inj hsegment]
  rfl

/-! ## §3. The slugs of stored cities. -/

/-- The rows of the `city_slug_map` query. -/
def cityKeys (db : Db) : List (Nat × Str) := db.cities.map fun city => (city.id, city.slug)

/-- **No call changes a slug**; a new city takes one that is free. -/
theorem OnboardingCall.run_cityKeys {P : Platform} {settings : Settings} {db db' : Db}
    {call : OnboardingCall} (h : db.Keyed) (hrun : call.run P settings db = .ok db') :
    cityKeys db' = cityKeys db
      ∨ ∃ slug, (∀ city ∈ db.cities, city.slug ≠ slug)
        ∧ cityKeys db' = cityKeys db ++ [(db.nextCity, slug)] := by
  -- a row written back keeps its key
  have hput : ∀ city city' : City, db.getCity city'.id = some city → city'.slug = city.slug →
      cityKeys (db.putCity city') = cityKeys db := by
    intro city city' hget hslug
    have hid : city'.id = city.id := (getRow_some City.id hget).2.symm
    exact setRow_map City.id h.city_nodup hget (Prod.ext hid hslug)
  cases call with
  | createCity data =>
      obtain ⟨-, hfree, rfl⟩ := createCity_ok hrun
      refine Or.inr ⟨normalizeSlug P data.name, hfree, ?_⟩
      simp [cityKeys, CityCreate.row]
  | addSource cityId data =>
      obtain ⟨_, -, -, -, rfl⟩ := addSource_ok hrun
      exact Or.inl rfl
  | updateSource sourceId data =>
      obtain ⟨_, _, -, -, rfl⟩ := updateSource_ok hrun
      exact Or.inl rfl
  | archiveSource sourceId now =>
      obtain ⟨_, -, rfl⟩ := archiveSource_ok hrun
      exact Or.inl rfl
  | archiveCity cityId now =>
      obtain ⟨city, hget, hid, rfl⟩ := archiveCity_ok hrun
      exact Or.inl (hput city _ (by rw [← hid] at hget; exact hget) rfl)
  | unarchiveCity cityId =>
      obtain ⟨city, hget, hid, rfl⟩ := unarchiveCity_ok hrun
      exact Or.inl (hput city _ (by rw [← hid] at hget; exact hget) rfl)
  | updateCity cityId data =>
      obtain ⟨city, city', hget, happly, rfl⟩ := updateCity_ok hrun
      obtain ⟨hid, hslug, -⟩ := CityUpdate.apply_ok happly
      have hkey : city.id = cityId := (getRow_some City.id hget).2
      exact Or.inl (hput city city' (by rw [hid, hkey]; exact hget) hslug)

/-- Keys as they should be, no two cities with one slug, and these cities among
them. -/
structure CitiesKept (kept : List (Nat × Str)) (db : Db) : Prop where
  keyed : db.Keyed
  slugs : (db.cities.map City.slug).Nodup
  kept : kept ⊆ cityKeys db

theorem citiesKept_step {P : Platform} {settings : Settings} {kept : List (Nat × Str)}
    {db db' : Db} {call : OnboardingCall} (h : CitiesKept kept db)
    (hstep : onboardingStep P settings db call = some db') : CitiesKept kept db' := by
  refine onboardingStep_keeps hstep h fun hrun => ?_
  have hslugs : ∀ db : Db, db.cities.map City.slug = (cityKeys db).map Prod.snd := by
    intro db
    simp [cityKeys]
  refine { keyed := call.run_keyed h.keyed hrun, slugs := ?_, kept := ?_ }
  · rw [hslugs]
    -- a call adds at most one city, under a slug nobody has
    rcases call.run_cityKeys h.keyed hrun with hsame | ⟨slug, hfree, hnew⟩
    · rw [hsame, ← hslugs]
      exact h.slugs
    · rw [hnew, List.map_append, ← hslugs, List.nodup_append]
      refine ⟨h.slugs, List.nodup_singleton _, ?_⟩
      intro a ha b hb
      obtain ⟨city, hcity, rfl⟩ := List.mem_map.mp ha
      rw [List.mem_singleton.mp hb]
      exact hfree city hcity
  · rcases call.run_cityKeys h.keyed hrun with hsame | ⟨slug, -, hnew⟩
    · rw [hsame]
      exact h.kept
    · rw [hnew]
      exact List.Subset.trans h.kept (List.subset_append_left _ _)

/-- **A stored city keeps its number and its slug**, and shares neither. -/
theorem CityStored.citiesKept {P : Platform} {settings : Settings} {data : CityCreate} {db : Db}
    {id : Nat} (h : CityStored P settings data db id) :
    CitiesKept [(id, normalizeSlug P data.name)] db := by
  obtain ⟨earlier, db₀, created, later, hearlier, hcreate, rfl, hlater⟩ := h
  have hempty : CitiesKept [] Db.empty :=
    { keyed := Db.empty_keyed, slugs := List.nodup_nil, kept := List.nil_subset _ }
  have hbefore : CitiesKept [] db₀ :=
    Run.invariant (fun _ _ _ hI hstep => citiesKept_step hI hstep) hearlier hempty
  -- the create is a step of the run between the earlier calls and the later
  have hstep : onboardingStep P settings db₀ (.createCity data) = some created := by
    have hrun : OnboardingCall.run P settings db₀ (.createCity data) = .ok created := hcreate
    unfold onboardingStep
    rw [hrun]
  have hcreated := citiesKept_step hbefore hstep
  refine Run.invariant (fun _ _ _ hI hstep => citiesKept_step hI hstep) hlater ?_
  refine { keyed := hcreated.keyed, slugs := hcreated.slugs, kept := ?_ }
  obtain ⟨-, -, rfl⟩ := createCity_ok hcreate
  simp [cityKeys, CityCreate.row]

/-- **The slug of a stored city resolves to it, and nothing else does.** -/
theorem citySlugMap_stored {kept : List (Nat × Str)} {db : Db} {id : Nat} {slug : Str}
    (h : CitiesKept kept db) (hkept : (id, slug) ∈ kept) (parsed : Str) :
    citySlugMap db.cities parsed = some id ↔ parsed = slug := by
  obtain ⟨city, hcity, hkey⟩ := List.mem_map.mp (h.kept hkept)
  obtain ⟨rfl, rfl⟩ := Prod.mk.inj hkey
  have hslugs : (db.cities.reverse.map City.slug).Nodup := by
    rw [List.map_reverse, List.nodup_reverse]
    exact h.slugs
  constructor
  · intro hmap
    obtain ⟨found, hfound, hid⟩ := Option.map_eq_some_iff.mp hmap
    obtain ⟨hmem, hslug⟩ := getRow_some City.slug hfound
    -- one city for each id, and one for each slug
    have hsame : found = city :=
      List.inj_on_of_nodup_map h.keyed.city_nodup (List.mem_reverse.mp hmem) hcity hid
    rw [← hsame, hslug]
  · intro hparsed
    have hget := getRow_of_mem City.slug hslugs (List.mem_reverse.mpr hcity)
    unfold citySlugMap
    rw [hparsed]
    exact congrArg (Option.map City.id) hget

/-! ## §4. When a city's own segment resolves to it. -/

theorem namesCity_iff {P : Platform} {name : Str} {segments : List Str} :
    NamesCity P name segments
      ↔ citySegment P segments = some (P.casefold (percentEncode (strip name))) :=
  citySegment_eq_some.symm

/-- **The shortest link that names a city.** -/
def cityLink (name : Str) : Str := "/city/".toList ++ percentEncode (strip name)

theorem cityLink_split (P : Platform) (name : Str) :
    ∃ parts, urlsplit P (cityLink name) = .ok parts ∧ parts.path = cityLink name := by
  refine ⟨_, urlsplit_path P (by decide) ?_, rfl⟩
  intro c hc
  rcases List.mem_append.mp (show c ∈ "/city/".toList ++ percentEncode (strip name) from hc)
    with hc | hc
  · have hall : "/city/".toList.all pathChar = true := by decide
    exact List.all_eq_true.mp hall c hc
  · rcases mem_percentEncode hc with hplain | rfl
    · simp [pathChar, hplain]
    · decide

theorem cityLink_segments {name : Str} (hname : strip name ≠ []) :
    pathSegments (cityLink name) = ["city".toList, percentEncode (strip name)] := by
  -- the encoded name has no slash, so it is one segment
  have hslash : ∀ c ∈ percentEncode (strip name), (c == '/') = false := by
    intro c hc
    simp only [beq_eq_false_iff_ne, ne_eq]
    intro hslash
    subst hslash
    rcases mem_percentEncode hc with hplain | hpercent
    · exact absurd hplain (by decide)
    · exact absurd hpercent (by decide)
  show words (· == '/') ('/' :: ("city".toList ++ '/' :: percentEncode (strip name))) = _
  rw [words_cons_sep (by decide), words_append_sep (by decide),
    words_of_noSep (by decide) (by simp), words_of_noSep (percentEncode_ne_nil hname) hslash]
  rfl

/-- A city that was stored has the slug it was stored with. -/
theorem CityStored.slug {P : Platform} {settings : Settings} {data : CityCreate} {db : Db}
    {id : Nat} {city : City} (h : CityStored P settings data db id)
    (hget : db.getCity id = some city) : city.slug = normalizeSlug P data.name := by
  have hkept := h.citiesKept
  obtain ⟨stored, hstored, hkey⟩ := List.mem_map.mp (hkept.kept List.mem_cons_self)
  obtain ⟨hid, hslug⟩ := Prod.mk.inj hkey
  obtain ⟨hmem, hcity⟩ := getRow_some City.id hget
  have hsame : city = stored :=
    List.inj_on_of_nodup_map hkept.keyed.city_nodup hmem hstored (hcity.trans hid.symm)
  rw [hsame, hslug]

/-- With room for its sources, a city can be created first of all. -/
theorem cityStored_first (P : Platform) (data : CityCreate) :
    ∃ settings db id city, CityStored P settings data db id ∧ db.getCity id = some city := by
  -- a cap that any request of the schema is under
  let settings : Settings := { defaultSettings with maxSourcesPerCity := 20 }
  have hcap : ¬ (data.sources.length : Int) > settings.maxSourcesPerCity := by
    have := data.sources_le
    show ¬ (data.sources.length : Int) > 20
    omega
  have hcreate : ∃ created, createCity P settings Db.empty data = .ok created := by
    unfold createCity assertSlugFree
    rw [if_neg hcap]
    exact ⟨_, rfl⟩
  obtain ⟨created, hcreate⟩ := hcreate
  refine ⟨settings, created, Db.empty.nextCity, data.row P Db.empty.nextCity,
    ⟨[], Db.empty, created, [], Run.nil _, hcreate, rfl, Run.nil _⟩, ?_⟩
  obtain ⟨-, -, rfl⟩ := createCity_ok hcreate
  show getRow City.id [data.row P Db.empty.nextCity] _ = _
  simp [getRow, CityCreate.row]

/-- Where a city's own segment resolves to it, its form folds to its slug. -/
theorem SegmentResolves.folds {P : Platform} (hfold : P.Casefolds) {data : CityCreate}
    (hname : strip data.name ≠ []) (h : SegmentResolves P data) :
    P.casefold (percentEncode (strip data.name)) = P.casefold (strip data.name) := by
  obtain ⟨settings, db, id, city, hstored, hget⟩ := cityStored_first P data
  obtain ⟨parts, hsplit, hpath⟩ := cityLink_split P data.name
  have hcity : P.casefold "city".toList = "city".toList := by
    rw [hfold.of_ascii (by simp)]
    rfl
  have hsegment : citySegment P (pathSegments parts.path)
      = some (P.casefold (percentEncode (strip data.name))) := by
    rw [hpath, cityLink_segments hname, citySegment, if_pos hcity]
  -- the city is found under the folded segment, so that is its slug
  have hextract := h.extracted settings db id city hstored hget (cityLink data.name) parts hsplit
    (namesCity_iff.mpr hsegment)
  rw [extractCity_of_split hsplit, hsegment, hstored.slug hget] at hextract
  exact Option.some.inj (Except.ok.inj hextract)

/-- Where it does so, what is extracted from a link that names the city is its
slug, and is looked up as that city. -/
theorem segmentResolves_of_folds {P : Platform} (hfold : P.Casefolds) {data : CityCreate}
    (hname : strip data.name ≠ [])
    (hsame : P.casefold (percentEncode (strip data.name)) = P.casefold (strip data.name)) :
    SegmentResolves P data where
  extracted := by
    intro settings db id city hstored hget link parts hsplit hnames
    rw [extractCity_of_split hsplit, namesCity_iff.mp hnames, hsame, hstored.slug hget]
    rfl
  resolved := by
    intro settings db id hstored source entry position row hrow
    obtain ⟨parts, hsplit, hcityId⟩ := normalizeEntry_city hrow
    have hnames : (∃ p, urlsplit P row.url = .ok p ∧ NamesCity P data.name (pathSegments p.path))
        ↔ citySegment P (pathSegments parts.path) = some (normalizeSlug P data.name) := by
      rw [normalizeSlug, ← hsame, ← namesCity_iff, hsplit]
      simp
    -- a name with a character in it has a slug with one
    have hslug : normalizeSlug P data.name ≠ [] := by
      rw [normalizeSlug, ← hsame, hfold.of_ascii fun c hc => mem_percentEncode_ascii hc]
      simpa using percentEncode_ne_nil hname
    have hmap := citySlugMap_stored hstored.citiesKept List.mem_cons_self
    rw [hnames, hcityId]
    -- no segment, or an empty one, names no city
    cases citySegment P (pathSegments parts.path) with
    | none => simp [truthy, orElse]
    | some parsed =>
        cases parsed with
        | nil => simpa [truthy, orElse] using hslug.symm
        | cons c rest => simpa [truthy, orElse] using hmap (c :: rest)

/-- **A CITY'S OWN SEGMENT RESOLVES TO IT EXACTLY IF ITS NAME NEEDS NO
ENCODING.** -/
theorem segmentResolves_iff {P : Platform} (hfold : P.Casefolds) (data : CityCreate)
    (hname : strip data.name ≠ []) :
    SegmentResolves P data ↔ ∀ c ∈ strip data.name, unreserved c = true := by
  rw [← casefold_percentEncode_iff hfold]
  exact ⟨fun h => h.folds hfold hname, segmentResolves_of_folds hfold hname⟩

/-- The ASCII platform folds like this. -/
theorem feedless_casefolds : feedless.Casefolds where
  each := by
    intro text
    show text.map Char.toLower = text.flatMap fun c => [c.toLower]
    exact List.map_eq_flatMap
  ascii := by
    intro c _
    rfl
  short := by
    intro c
    show 1 ≤ 3
    decide

def puneTimes : SourceCreate :=
  { testTimes with name := "Pune Times".toList, name_ne := by decide }

/-- A city of one word. -/
def pune : CityCreate where
  name := " Pune ".toList
  sources := [puneTimes]

theorem segmentResolves_iff_pune : SegmentResolves feedless pune := by
  refine (segmentResolves_iff feedless_casefolds pune (by decide)).mpr ?_
  have hall : (strip pune.name).all unreserved = true := by decide
  exact List.all_eq_true.mp hall

/-- A city of two words. -/
def naviMumbai : CityCreate :=
  { pune with name := "Navi Mumbai".toList, name_ne := by decide }

/-- The space comes as `%20`, and stays so. -/
theorem naviMumbai_unresolved :
    extractCity feedless "https://x.test/city/navi%20mumbai/story".toList
        = .ok (some "navi%20mumbai".toList)
      ∧ normalizeSlug feedless naviMumbai.name = "navi mumbai".toList
      ∧ ¬ SegmentResolves feedless naviMumbai := by
  refine ⟨by decide, by decide, fun h => ?_⟩
  have hfolds := h.folds feedless_casefolds (by decide)
  exact absurd hfolds (by decide)

end Feedcast
