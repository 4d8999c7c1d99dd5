/-
  Feedcast.Discover.ClockZone — the publication time and the zone of the host
  (`services/ingest.py`, `api/v1/endpoints/stories.py`, `services/rank.py`).

  feedparser hands over a UTC tuple, and `_parse_time` reads it with
  `time.mktime`: as a clock on the wall of the process.  The instant it then
  labels UTC is off by what the zone is off there.

    • `normalizeEntry_inZone` — the zone reaches the date of an article only,
    • `storesInstant_iff` — when that date is the instant of the tuple,
    • `World.step_inZone` — zones that read the feeds alike step alike,
    • `zoneFree_iff` — hence when the zone of the host does not matter,
    • `india_shifts`, `changedClock_reorders` — where it does.
-/
import Feedcast.Discover.Paging
import Feedcast.Ingest.BadEntry
import Feedcast.Polling.Ledger
import Feedcast.Polling.Validators

namespace Feedcast

open Feedcast.Lib

/-! ## §1. The clock of the host. -/

/-- What a clock shows, in seconds: each day has as many. -/
def TimeTuple.wallClock (t : TimeTuple) : Int :=
  daysFromCivil t.year t.month t.day * 86400 + t.hour * 3600 + t.minute * 60 + t.second

/-- The instant of a UTC tuple. -/
def TimeTuple.instant (t : TimeTuple) : Time := seconds t.wallClock

/-- A local zone as `mktime` uses it: how many seconds east of UTC it takes a
clock to stand.  A zone that changes its offset takes one clock so and a later
one otherwise.  The tuples of feedparser have `tm_isdst` 0, so the offset is the
one of standard time, also in summer. -/
structure Zone where
  offset : Int → Int

/-- `time.mktime` in a zone. -/
def Zone.mktime (z : Zone) (t : TimeTuple) : Int := t.wallClock - z.offset t.wallClock

/-- `datetime.fromtimestamp(time.mktime(_), tz=UTC)` in a zone. -/
def Zone.read (z : Zone) (t : TimeTuple) : Time := seconds (z.mktime t)

/-- The platform of a process in a zone: a timestamp is the instant it counts to. -/
def Platform.inZone (P : Platform) (z : Zone) : Platform :=
  { P with mktime := fun t => .ok (z.mktime t), fromTimestamp := fun t => .ok (seconds t) }

/-- The same offset all year. -/
def Zone.fixed (offset : Int) : Zone where
  offset _ := offset

/-- A zone that changes its offset once, from a clock on. -/
def Zone.changing (change before after : Int) : Zone where
  offset clock := if clock < change then before else after

/-- A zone reads a tuple as its instant exactly if it is not off there. -/
theorem Zone.read_eq_instant {z : Zone} {t : TimeTuple} :
    z.read t = t.instant ↔ z.offset t.wallClock = 0 := by
  unfold read mktime TimeTuple.instant seconds
  show ((t.wallClock - z.offset t.wallClock) * 1000000 : Int) = t.wallClock * 1000000 ↔ _
  omega

/-! ## §2. The property. -/

/-- An entry that gives an article: a link, which splits, and a title, which
unescapes, as does a summary. -/
def Storable (P : Platform) (entry : Entry) : Prop :=
  ∃ link title parts, truthy entry.link = some link ∧ truthy entry.title = some title
    ∧ urlsplit P link = .ok parts ∧ Unescapes P title
    ∧ ∀ summary, truthy entry.summary = some summary → Unescapes P summary

/-- From whatever source and position, the article carries the instant of the
tuple. -/
def StoresInstant (P : Platform) (entry : Entry) : Prop :=
  ∀ source position cities row,
    normalizeEntry P source entry position cities = .ok (some row) →
      row.publishedAt = entry.publishedParsed.map TimeTuple.instant

/-- A body carries entries of `F` only. -/
def CarriesOnly (P : Platform) (F : Entry → Prop) (content : List UInt8) : Prop :=
  ∀ parsed, P.feedparse content = .ok parsed → ∀ entry ∈ parsed.entries, F entry

/-- A response that an action brings carries entries of `F` only. -/
def BringsOnly (P : Platform) (F : Entry → Prop) : WorldAction → Prop
  | .pass _ (.respond _ _ (.ok result)) => CarriesOnly P F result.content
  | _ => True

/-- Two processes, each in its zone, show the same stories. -/
structure SameStories (P : Platform) (settings : Settings) (a b : Zone) (db db' : Db) : Prop where
  stored : db.articles = db'.articles
  window : ∀ query now, windowRows settings db query now = windowRows settings db' query now
  /-- In one order, for either sort, whatever order the rows come in. -/
  listed : ∀ query now rows rows', rows.Perm (windowRows settings db query now) →
    rows'.Perm (windowRows settings db' query now) →
      listStories (P.inZone a) settings db query rows
        = listStories (P.inZone b) settings db' query rows'

/-- **Publication times do not depend on the zone of the host**, for feeds of
entries of `F`, between the zones `a` and `b`. -/
structure ZoneFree (P : Platform) (a b : Zone) (F : Entry → Prop) : Prop where
  instant : ∀ entry, F entry →
    StoresInstant (P.inZone a) entry ∧ StoresInstant (P.inZone b) entry
  /-- What happens under one zone can happen under the other. -/
  enabled : ∀ settings db actions, (∀ action ∈ actions, BringsOnly P F action) →
    ((∃ w, Run (World.step (P.inZone a) settings) (World.start db) actions w)
      ↔ ∃ w, Run (World.step (P.inZone b) settings) (World.start db) actions w)
  stories : ∀ settings db actions, (db.articles.map (·.id)).Nodup →
    (∀ action ∈ actions, BringsOnly P F action) →
      ∀ w w', Run (World.step (P.inZone a) settings) (World.start db) actions w →
        Run (World.step (P.inZone b) settings) (World.start db) actions w' →
          SameStories P settings a b w.db w'.db

/-- Neither zone is off at the date of an entry that is stored. -/
def ReadsUtc (P : Platform) (a b : Zone) (F : Entry → Prop) : Prop :=
  ∀ entry, F entry → Storable P entry → ∀ t ∈ entry.publishedParsed,
    a.offset t.wallClock = 0 ∧ b.offset t.wallClock = 0

/-! ## §3. One entry. -/

section Entry

variable {P : Platform} {source : Source} {entry : Entry} {position : Nat}
  {cities : Str → Option Nat}

theorem citySegment_inZone (z : Zone) (segments : List Str) :
    citySegment (P.inZone z) segments = citySegment P segments := by
  induction segments with
  | nil => rfl
  | cons segment rest ih =>
      cases rest with
      | nil => rfl
      | cons next rest =>
          rw [citySegment, citySegment, ih]
          rfl

/-- **The zone reaches the date of an article only.** -/
theorem normalizeEntry_inZone (z : Zone) :
    normalizeEntry (P.inZone z) source entry position cities
      = (normalizeEntry P source { entry with publishedParsed := none } position cities).map
          (Option.map fun row =>
            { row with publishedAt := entry.publishedParsed.map z.read }) := by
  -- the zone is read for the publication date, and for nothing else
  have hsplit : ∀ url, urlsplit (P.inZone z) url = urlsplit P url := fun _ => rfl
  have hunescape : (P.inZone z).htmlUnescape = P.htmlUnescape := rfl
  have hsummary : entrySummary (P.inZone z) entry.summary = entrySummary P entry.summary := rfl
  unfold normalizeEntry
  cases truthy entry.link with
  | none => rfl
  | some link =>
      cases truthy entry.title with
      | none => rfl
      | some title =>
          unfold canonicalizeUrl extractCity
          simp only [hsplit, citySegment_inZone, hunescape, hsummary]
          cases urlsplit P link with
          | error e => rfl
          | ok parts =>
              cases P.htmlUnescape title with
              | error e => rfl
              | ok text =>
                  cases entrySummary P entry.summary with
                  | error e => rfl
                  | ok summary => cases entry.publishedParsed <;> rfl

/-- Without a date, an entry gives an article exactly if it can be stored. -/
theorem normalizeEntry_undated :
    (∃ row, normalizeEntry P source { entry with publishedParsed := none } position cities
        = .ok (some row)) ↔
      Storable P entry := by
  constructor
  · intro h
    obtain ⟨row, hrow⟩ := h
    obtain ⟨title, _, _, hlink, htitle, -⟩ := normalizeEntry_row hrow
    obtain ⟨⟨parts, hsplit⟩, htext, hsummary, -⟩ :=
      normalizeEntry_ok_iff.mp ⟨some row, hrow⟩ row.url title hlink htitle
    exact ⟨row.url, title, parts, hlink, htitle, hsplit, htext, hsummary⟩
  · intro h
    obtain ⟨link, title, parts, hlink, htitle, hsplit, htext, hsummary⟩ := h
    have hnormal : EntryNormalizable P { entry with publishedParsed := none } := by
      intro link' title' hlink' htitle'
      obtain rfl := Option.some.inj (hlink.symm.trans hlink')
      obtain rfl := Option.some.inj (htitle.symm.trans htitle')
      exact ⟨⟨parts, hsplit⟩, htext, hsummary, nofun⟩
    obtain ⟨article, harticle⟩ := normalizeEntry_ok_iff.mpr hnormal
    cases article with
    | some row => exact ⟨row, harticle⟩
    | none =>
        -- an entry with a link and a title is not skipped
        unfold normalizeEntry at harticle
        simp only [hlink, htitle, except_bind_ok] at harticle
        obtain ⟨_, -, _, -, _, -, _, -, _, -, harticle⟩ := harticle
        cases harticle

/-- **When the date stored is the instant of the tuple.** -/
theorem storesInstant_iff {z : Zone} :
    StoresInstant (P.inZone z) entry ↔
      (Storable P entry → ∀ t ∈ entry.publishedParsed, z.offset t.wallClock = 0) := by
  constructor
  · intro h hstorable t ht
    obtain ⟨row, hrow⟩ :=
      (@normalizeEntry_undated P (testTimes.row 1 1) entry 1 fun _ => none).mpr hstorable
    have hdated := h (testTimes.row 1 1) 1 (fun _ => none)
      { row with publishedAt := entry.publishedParsed.map z.read }
      (by rw [normalizeEntry_inZone, hrow]; rfl)
    rw [Option.mem_def.mp ht] at hdated
    exact Zone.read_eq_instant.mp (Option.some.inj hdated)
  · intro h source position cities row hrow
    rw [normalizeEntry_inZone] at hrow
    -- an entry that is skipped, or raises, stores no date
    cases hundated : normalizeEntry P source { entry with publishedParsed := none } position
        cities with
    | error e =>
        rw [hundated] at hrow
        cases hrow
    | ok article =>
        cases article with
        | none =>
            rw [hundated] at hrow
            cases hrow
        | some article =>
            have hstorable : Storable P entry := normalizeEntry_undated.mp ⟨article, hundated⟩
            rw [hundated] at hrow
            cases hrow
            refine Option.map_congr ?_
            intro t ht
            exact Zone.read_eq_instant.mpr (h hstorable t ht)

/-- Zones that read an entry alike normalise it alike. -/
theorem normalizeEntry_sameZone {a b : Zone}
    (h : Storable P entry → ∀ t ∈ entry.publishedParsed, a.read t = b.read t) :
    normalizeEntry (P.inZone a) source entry position cities
      = normalizeEntry (P.inZone b) source entry position cities := by
  rw [normalizeEntry_inZone, normalizeEntry_inZone]
  cases hundated : normalizeEntry P source { entry with publishedParsed := none } position
      cities with
  | error e => rfl
  | ok article =>
      cases article with
      | none => rfl
      | some article =>
          -- only a row that comes about asks for its date
          have hstorable : Storable P entry := normalizeEntry_undated.mp ⟨article, hundated⟩
          have hread : entry.publishedParsed.map a.read = entry.publishedParsed.map b.read :=
            Option.map_congr (h hstorable)
          rw [hread]

end Entry

/-! ## §4. Two runs. -/

section TwoRuns

variable {P : Platform} {settings : Settings} {a b : Zone} {F : Entry → Prop}

/-- Two zones read every entry of `F` alike. -/
def ReadAlike (P : Platform) (a b : Zone) (F : Entry → Prop) : Prop :=
  ∀ entry, F entry → Storable P entry → ∀ t ∈ entry.publishedParsed, a.read t = b.read t

theorem ReadsUtc.alike (h : ReadsUtc P a b F) : ReadAlike P a b F := by
  intro entry hentry hstorable t ht
  obtain ⟨ha, hb⟩ := h entry hentry hstorable t ht
  rw [Zone.read_eq_instant.mpr ha, Zone.read_eq_instant.mpr hb]

theorem collectRows_inZone (h : ReadAlike P a b F) {weather : Weather} {source : Source}
    {cities : Str → Option Nat} {position : Nat} {entries : List Entry} {seen : List Str}
    (hentries : ∀ entry ∈ entries, F entry) :
    collectRows (P.inZone a) weather source cities position entries seen
      = collectRows (P.inZone b) weather source cities position entries seen := by
  induction entries generalizing position seen with
  | nil => rfl
  | cons entry rest ih =>
      obtain ⟨hentry, hrest⟩ := List.forall_mem_cons.mp hentries
      -- the entry reads alike in both zones
      have hsame : normalizeEntry (P.inZone a) source entry position cities
          = normalizeEntry (P.inZone b) source entry position cities :=
        normalizeEntry_sameZone (h entry hentry)
      simp only [collectRows, hsame, ih hrest]

theorem parseResult_inZone (h : ReadAlike P a b F) {weather : Weather} {cities : List City}
    {source : Source} {result : FetchResult} {now : Time} {seen : List Str}
    (hcarries : CarriesOnly P F result.content) :
    parseResult (P.inZone a) weather cities source result now seen
      = parseResult (P.inZone b) weather cities source result now seen := by
  -- the parser does not read the host's zone
  have hfeed : ∀ z, (P.inZone z).feedparse result.content = P.feedparse result.content :=
    fun _ => rfl
  unfold parseResult
  rw [hfeed, hfeed]
  cases weather.check .parse with
  | error e => rfl
  | ok quiet =>
      cases hparse : P.feedparse result.content with
      | error e => rfl
      | ok parsed =>
          simp only [collectRows_inZone h (hcarries parsed hparse)]
          rfl

/-- What the fetches of a pass carry. -/
def Pass.Fed (P : Platform) (F : Entry → Prop) (pass : Pass) : Prop :=
  ∀ f ∈ pass.fetches, ∀ result, f.attempt.fetched = .ok result → CarriesOnly P F result.content

/-- **Zones that read the feeds of a pass alike step it alike.** -/
theorem Pass.step_inZone (h : ReadAlike P a b F) {db : Db} {taken : List Str} {pass : Pass}
    (hfed : pass.Fed P F) (action : PassAction) :
    pass.step (P.inZone a) db taken action = pass.step (P.inZone b) db taken action := by
  cases action with
  | parse weather =>
      obtain ⟨city, phase⟩ := pass
      simp only [Pass.step]
      split
      · next todo seen outcomes fetched loaded =>
          cases hfetched : fetched.attempt.fetched with
          | error e => rfl
          | ok result =>
              -- the only statement that reads a date
              have hcarries : CarriesOnly P F result.content := by
                refine hfed fetched (mem_fetches_persisting.mpr (Or.inr ?_)) result hfetched
                exact ⟨_, rfl, rfl⟩
              simp only [parseResult_inZone h hcarries]
      · rfl
  | respond | startPersist | openNext | insertRow | finishInsert | raise | recover | commit
  | finish => rfl

/-- What the fetches of all passes carry. -/
def World.Fed (P : Platform) (F : Entry → Prop) (w : World) : Prop :=
  ∀ pass ∈ w.passes, pass.Fed P F

theorem World.step_fed {Q : Platform} {w w' : World} {action : WorldAction} (h : w.Fed P F)
    (hbrings : BringsOnly P F action) (hstep : w.step Q settings action = some w') :
    w'.Fed P F := by
  cases World.step_effect hstep with
  | refused => exact h
  | begin action city targets =>
      intro pass hpass
      rcases List.mem_append.mp hpass with hold | hnew
      · exact h pass hold
      · rw [List.mem_singleton.mp hnew]
        unfold Pass.Fed
        simp
  | pass index action pass pass' db hget hpass =>
      intro p hp
      rcases List.mem_or_eq_of_mem_set hp with hold | rfl
      · exact h p hold
      · intro f hf result hok
        -- what a pass holds it was given, or has just been answered
        rcases Pass.step_fetches hpass hf with hold | ⟨slot, attemptedAt, slots, rfl, -, -⟩
        · exact h pass (List.mem_of_getElem? hget) f hold result hok
        · rw [hok] at hbrings
          exact hbrings
  | patches => exact h
  | commitPatch => exact h
  | call => exact h

/-- **Zones that read the feeds alike step alike.** -/
theorem World.step_inZone (h : ReadAlike P a b F) {w : World} (hfed : w.Fed P F)
    (action : WorldAction) :
    w.step (P.inZone a) settings action = w.step (P.inZone b) settings action := by
  cases action with
  -- only a pass reads a clock tuple
  | pass index action =>
      simp only [World.step]
      cases hget : w.passes[index]? with
      | none => rfl
      | some pass =>
          have hpass : pass.Fed P F := hfed pass (List.mem_of_getElem? hget)
          simp only [Pass.step_inZone h hpass]
  | beginTick | beginRefresh | openPatch | commitPatch | call => rfl

/-- **A run under one zone is a run under the other**, to the same world. -/
theorem run_inZone (h : ReadAlike P a b F) {db : Db} {actions : List WorldAction} {w : World}
    (hbrings : ∀ action ∈ actions, BringsOnly P F action)
    (hrun : Run (World.step (P.inZone a) settings) (World.start db) actions w) :
    Run (World.step (P.inZone b) settings) (World.start db) actions w := by
  have hstart : (World.start db).Fed P F := by
    intro pass hpass
    cases hpass
  exact hrun.congr (I := World.Fed P F)
    (fun _ _ _ hfed hbring hstep => World.step_fed hfed hbring hstep)
    (fun _ action hfed _ => World.step_inZone h hfed action) hstart hbrings

/-- The page does not depend on the order the database returns its rows in. -/
theorem listStories_congr {db : Db} (query : StoriesQuery) {rows rows' : List StoryRow}
    (hids : (rows.map (·.article.id)).Nodup) (hperm : rows.Perm rows') :
    listStories P settings db query rows = listStories P settings db query rows' := by
  unfold listStories
  rw [inOrder_congr query.sort (hids.sublist (List.filter_sublist.map _)) (hperm.filter _)]

/-- Over one database, no zone reaches the stories. -/
theorem SameStories.refl {db : Db} (hids : (db.articles.map (·.id)).Nodup) :
    SameStories P settings a b db db where
  stored := rfl
  window _ _ := rfl
  listed query now rows rows' hrows hrows' := by
    have hdistinct : (rows.map (·.article.id)).Nodup :=
      (hrows.map _).nodup_iff.mpr (joined_ids hids _)
    exact listStories_congr query hdistinct (hrows.trans hrows'.symm)

end TwoRuns

/-! ## §5. When the zone does not matter. -/

/-- **PUBLICATION TIMES DO NOT DEPEND ON THE ZONE OF THE HOST EXACTLY IF NEITHER
ZONE IS OFF** at the date of an entry that is stored. -/
theorem zoneFree_iff (P : Platform) (a b : Zone) (F : Entry → Prop) :
    ZoneFree P a b F ↔ ReadsUtc P a b F := by
  constructor
  · intro h entry hentry hstorable t ht
    obtain ⟨ha, hb⟩ := h.instant entry hentry
    exact ⟨storesInstant_iff.mp ha hstorable t ht, storesInstant_iff.mp hb hstorable t ht⟩
  · intro h
    have hab : ReadAlike P a b F := h.alike
    have hba : ReadAlike P b a F := fun entry hentry hs t ht => (hab entry hentry hs t ht).symm
    refine { instant := ?_, enabled := ?_, stories := ?_ }
    · intro entry hentry
      exact ⟨storesInstant_iff.mpr fun hs t ht => (h entry hentry hs t ht).1,
        storesInstant_iff.mpr fun hs t ht => (h entry hentry hs t ht).2⟩
    · intro settings db actions hbrings
      constructor
      · intro hrun
        obtain ⟨w, hw⟩ := hrun
        exact ⟨w, run_inZone hab hbrings hw⟩
      · intro hrun
        obtain ⟨w, hw⟩ := hrun
        exact ⟨w, run_inZone hba hbrings hw⟩
    · intro settings db actions hids hbrings w w' hw hw'
      -- the two runs end in one world
      have hsame : some w = some w' :=
        (run_iff_exec.mp (run_inZone hab hbrings hw)).symm.trans (run_iff_exec.mp hw')
      obtain rfl := Option.some.inj hsame
      have hledger : Ledger db.articles.length w :=
        hw.invariant (fun _ _ _ hl hs => World.step_ledger hl hs) (Ledger.start hids)
      exact SameStories.refl hledger.stored

/-- The test entry, dated at noon. -/
def noonEntry : Entry :=
  { drainageEntry with
    publishedParsed := some
      { year := 1970, month := 1, day := 1, hour := 12, minute := 0, second := 0 } }

/-- A host on Indian time stores half past six. -/
theorem india_shifts :
    ¬ ZoneFree feedless (Zone.fixed 0) (Zone.fixed 19800) (fun entry => entry = noonEntry) := by
  intro h
  have hstorable : Storable feedless noonEntry := 
    ⟨_, _, _, rfl, rfl, rfl, ⟨_, rfl⟩, nofun⟩
  have hoff : (Zone.fixed 19800).offset (12 * 3600) = 0 :=
    storesInstant_iff.mp (h.instant noonEntry rfl).2 hstorable _ rfl
  exact absurd hoff (by decide)

/-! ## §6. A clock that is put forward. -/

/-- Two stories of one evening, twenty minutes apart. -/
def eveningFeed : Platform :=
  let dated (minute : Nat) : Option TimeTuple :=
    some { year := 1970, month := 1, day := 1, hour := 23, minute := minute, second := 0 }
  asciiPlatform fun _ =>
    .ok { version := "rss20".toList, bozo := false, bozoException := []
          entries :=
            [{ drainageEntry with publishedParsed := dated 25 },
              { link := some "https://example.test/news/ward-office".toList
                title := some "Ward office opens".toList
                publishedParsed := dated 45 }] }

/-- A tick that stores them. -/
def eveningTick : List WorldAction :=
  let targets := [(testTimes.row 1 1).target, (testTimes.row 2 1).target]
  let page := (fetchedAt 1).fetched
  [.beginTick 0 targets, .pass 0 (.respond 0 0 page), .pass 0 (.respond 1 0 page),
    .pass 0 .startPersist,
    .pass 0 .openNext, .pass 0 (.parse calm), .pass 0 (.insertRow 0), .pass 0 (.insertRow 0),
    .pass 0 .finishInsert, .pass 0 .commit]

/-- The two sources, both local outlets. -/
def localSources : Db :=
  { twoSources with
    sources := twoSources.sources.map fun source => { source with isLocalOutlet := true } }

/-- The titles that a sort lists a day later, after that tick in a zone. -/
def eveningTitles (z : Zone) (sort : StorySort) : Option (List Str) :=
  (exec (World.step (eveningFeed.inZone z) defaultSettings) (World.start localSources)
    eveningTick).map fun w =>
      (listStories (eveningFeed.inZone z) defaultSettings w.db { sort := sort }
        (windowRows defaultSettings w.db { sort := sort } (hours 24))).map (·.title)

/-- **Put forward by half an hour between them, the clock turns the two around**,
under either sort. -/
theorem changedClock_reorders (sort : StorySort) :
    eveningTitles (Zone.fixed 0) sort
        = some ["Ward office opens".toList, "City council approves drainage project".toList]
      ∧ eveningTitles (Zone.changing 84600 30600 32400) sort
        = some ["City council approves drainage project".toList, "Ward office opens".toList] := by
  cases sort with
  | recent => decide +kernel
  | engagement => decide +kernel

end Feedcast
