/-
  Feedcast.Polling.MaxAge — how large a max-age may be
  (`services/ingest.py`, `services/scheduler.py`, `db/models/source.py`).

  The digits of a `Cache-Control` header are as many as the origin sends.  `int`
  refuses more than 4300 of them, and the column behind the number holds 32
  bits.  Either way the transaction of a good feed raises, at every poll:

    • `parseMaxAge_eq` — the header as its digits,
    • `persistStored_good` — a good feed whose max-age fits is a success,
    • `isDueChecked_written` — a row so written is due without an overflow,
    • `header_harmless_iff` — hence which headers do no harm.
-/
import Feedcast.Polling.Backoff
import Feedcast.Ingest.BadEntry

namespace Feedcast

open Feedcast.Lib

/-! ## §1. The column, and the commit that checks it. -/

/-- The largest value of an `Integer` column. -/
def integerMax : Nat := 2147483647

/-- What the database has against a row of `sources`; `refusal` is its text. -/
def columnCheck (refusal : Str) (source : Source) : Raises Unit :=
  if source.cacheMaxAgeSeconds.getD 0 ≤ integerMax then .ok () else .error refusal

/-- The commit of a transaction, with the columns checked. -/
def storeTxn (w : Weather) (refusal : Str) (txn : Raises Ingested) : Raises Ingested := do
  let ingested ← txn
  columnCheck refusal ingested.source
  commitTxn w (.ok ingested)

/-- What is ready goes through the check of its column, then the commit. -/
theorem storeTxn_ready (w : Weather) (refusal : Str) (ingested : Ingested) :
    storeTxn w refusal (.ok ingested) = (do
      columnCheck refusal ingested.source
      w.check .commit
      return ingested) := rfl

/-- **What is ready is stored** if its row fits the column and the commit is
taken. -/
theorem storeTxn_ok_iff {w : Weather} {refusal : Str} {ingested : Ingested} :
    storeTxn w refusal (.ok ingested) = .ok ingested ↔
      columnCheck refusal ingested.source = .ok () ∧ w.raises .commit = none := by
  rw [storeTxn_ready, ← check_eq_ok]
  cases columnCheck refusal ingested.source with
  | error e => exact iff_of_false nofun fun h => by cases h.1
  | ok _ =>
      cases w.check .commit with
      | error e => exact iff_of_false nofun fun h => by cases h.2
      | ok _ => exact iff_of_true rfl ⟨rfl, rfl⟩

/-- What is ready is stored as it is, or not at all. -/
theorem storeTxn_cases (w : Weather) (refusal : Str) (ingested : Ingested) :
    storeTxn w refusal (.ok ingested) = .ok ingested
      ∨ ∃ e, storeTxn w refusal (.ok ingested) = .error e := by
  rw [storeTxn_ready]
  cases columnCheck refusal ingested.source with
  | error e => exact Or.inr ⟨e, rfl⟩
  | ok _ =>
      cases w.check .commit with
      | error e => exact Or.inr ⟨e, rfl⟩
      | ok _ => exact Or.inl rfl

/-- One round of `persist_attempts`: what is committed of an attempt, or the
failure recorded after the rollback. -/
def persistStored (P : Platform) (w : Weather) (refusal : Str) (db : Db) (source : Source)
    (attempt : FetchAttempt) (seen : List Str) : Source × SourceIngestOutcome :=
  match storeTxn w refusal (persistAttempt P w db source attempt seen).2 with
  | .ok ingested => (ingested.source, ingested.outcome)
  | .error exc => recordFetchFailure source (persistFailed exc) attempt.attemptedAt

/-! ## §2. The due check of every source. -/

/-- `due_sources`, with what it raises. -/
def dueSourcesChecked (now : Time) (settings : Settings) :
    List Source → Except OverflowError (List Source)
  | [] => .ok []
  | source :: rest => do
      let due ← isDueChecked source now settings
      let more ← dueSourcesChecked now settings rest
      return if due then source :: more else more

/-- `load_due_targets`, with what it raises. -/
def loadDueTargetsChecked (db : Db) (now : Time) (settings : Settings) :
    Except OverflowError (List FetchTarget) := do
  let due ← dueSourcesChecked now settings (db.sources.filter (·.polled))
  return due.map (·.target)

theorem dueSourcesChecked_eq {now : Time} {settings : Settings} {sources : List Source}
    (h : ∀ source ∈ sources, ∃ due, isDueChecked source now settings = .ok due) :
    dueSourcesChecked now settings sources = .ok (dueSources sources now settings) := by
  induction sources with
  | nil => rfl
  | cons source rest ih =>
      obtain ⟨due, hdue⟩ := h source List.mem_cons_self
      have hrest := ih fun other hother => h other (List.mem_cons_of_mem source hother)
      have hsame := isDueChecked_ok hdue
      unfold dueSourcesChecked dueSources
      rw [hdue, hrest, List.filter_cons, ← hsame]
      rfl

/-- **The due sources load** if the check of every polled source answers. -/
theorem loadDueTargetsChecked_eq {db : Db} {now : Time} {settings : Settings}
    (h : ∀ source ∈ db.sources, source.polled = true →
      ∃ due, isDueChecked source now settings = .ok due) :
    loadDueTargetsChecked db now settings = .ok (loadDueTargets db now settings) := by
  have hall : ∀ source ∈ db.sources.filter (·.polled),
      ∃ due, isDueChecked source now settings = .ok due := by
    intro source hsource
    obtain ⟨hmem, hpolled⟩ := List.mem_filter.mp hsource
    exact h source hmem hpolled
  unfold loadDueTargetsChecked
  rw [dueSourcesChecked_eq hall]
  rfl

/-! ## §3. The property. -/

/-- A feed there is nothing wrong with: unmodified, or recognised and with
entries that can be normalised. -/
def GoodFeed (P : Platform) (result : FetchResult) : Prop :=
  result.statusCode = 304 ∨ ∃ parsed, P.feedparse result.content = .ok parsed
    ∧ parsed.version ≠ [] ∧ ∀ entry ∈ parsed.entries, EntryNormalizable P entry

/-- The start of the year 9999. -/
def year9999 : Time := seconds 253370764800

/-- A stamp from which the longest wait ends before that year. -/
def InCalendar (settings : Settings) (last : Time) : Prop :=
  datetimeMin ≤ last
    ∧ last + seconds (max (integerMax : Int) settings.schedulerMaxBackoffSeconds) < year9999

/-- A row the header was written to, after any number of failures since. -/
def WrittenUnder (P : Platform) (settings : Settings) (headers : Headers) (row : Source) : Prop :=
  ∃ refusal source now source' failures last,
    source.fetchIntervalMinutes ≤ 10080
      ∧ recordFetchSuccess P source headers now = .ok source'
      ∧ columnCheck refusal source' = .ok ()
      ∧ InCalendar settings last
      ∧ row = { source'.afterFailures failures with lastFetchedAt := some last }

/-- **A header that does no harm**: its max-age fits the column, a good feed
under it is recorded as a success, and the rows written under it do not keep the
due sources from being loaded. -/
structure HeaderHarmless (P : Platform) (headers : Headers) : Prop where
  fits : ∃ maxAge, parseMaxAge P headers = .ok maxAge ∧ maxAge.getD 0 ≤ integerMax
  recorded : ∀ refusal dbNow db source result now seen, result.headers = headers →
    GoodFeed P result →
      let stored := persistStored P (Weather.quiet dbNow) refusal db source
        { sourceId := source.id, attemptedAt := now, fetched := .ok result } seen
      stored.2.ok = true ∧ recordFetchSuccess P source headers now = .ok stored.1
  due : ∀ db now settings,
    (∀ row ∈ db.sources, row.polled = true →
      WrittenUnder P settings headers row
        ∨ ∃ due, isDueChecked row now settings = .ok due) →
      loadDueTargetsChecked db now settings = .ok (loadDueTargets db now settings)

/-! ## §4. The digits of a header. -/

/-- The digits of the first `max-age`, unless the header says to store nothing. -/
def maxAgeDigits (P : Platform) (headers : Headers) : Option Str :=
  match truthy headers.cacheControl with
  | none => none
  | some directive =>
      if (noStorePattern P).search directive then none
      else
        match (maxAgePattern P).find none directive with
        | [] => none
        | (_, rest) :: _ => some (rest.takeWhile fun c => (P.decimal c).isSome)

/-- The number that digits denote. -/
def decimalValue (P : Platform) (digits : Str) : Nat :=
  digits.foldl (fun n c => n * 10 + (P.decimal c).getD 0) 0

/-- No max-age counts, or it has at most 4300 digits and fits the column. -/
def MaxAgeFits (P : Platform) (headers : Headers) : Prop :=
  ∀ digits, maxAgeDigits P headers = some digits →
    digits.length ≤ 4300 ∧ decimalValue P digits ≤ integerMax

/-- **The header is read through its digits.** -/
theorem parseMaxAge_eq (P : Platform) (headers : Headers) :
    parseMaxAge P headers
      = match maxAgeDigits P headers with
        | none => .ok none
        | some digits =>
            if digits.length ≤ 4300 then .ok (some (decimalValue P digits))
            else .error "Exceeds the limit (4300 digits) for integer string conversion".toList := by
  unfold parseMaxAge maxAgeDigits
  cases truthy headers.cacheControl with
  | none => rfl
  | some directive =>
      dsimp only
      by_cases hstore : (noStorePattern P).search directive = true
      · rw [if_pos hstore, if_pos hstore]
      · rw [if_neg hstore, if_neg hstore]
        cases (maxAgePattern P).find none directive with
        | nil => rfl
        | cons hit hits =>
            dsimp only
            unfold intOfDigits
            -- CPython refuses to convert more than 4300 digits
            by_cases hlength : (hit.2.takeWhile fun c => (P.decimal c).isSome).length ≤ 4300
            · rw [if_pos hlength, if_neg (not_lt.mpr hlength)]
              rfl
            · rw [if_neg hlength, if_pos (not_le.mp hlength)]
              rfl

theorem fits_iff {P : Platform} {headers : Headers} :
    (∃ maxAge, parseMaxAge P headers = .ok maxAge ∧ maxAge.getD 0 ≤ integerMax)
      ↔ MaxAgeFits P headers := by
  unfold MaxAgeFits
  rw [parseMaxAge_eq]
  cases maxAgeDigits P headers with
  | none =>
      -- no max-age is stored as NULL, or as what was there
      have hnone : (none : Option Nat).getD 0 ≤ integerMax := Nat.zero_le _
      exact iff_of_true ⟨none, rfl, hnone⟩ fun digits h => by cases h
  | some digits =>
      dsimp only
      constructor
      · intro h
        obtain ⟨maxAge, hparse, hfits⟩ := h
        intro digits' hdigits
        cases hdigits
        by_cases hlength : digits.length ≤ 4300
        · rw [if_pos hlength] at hparse
          cases hparse
          exact ⟨hlength, hfits⟩
        · rw [if_neg hlength] at hparse
          cases hparse
      · intro h
        obtain ⟨hlength, hfits⟩ := h digits rfl
        rw [if_pos hlength]
        exact ⟨_, rfl, hfits⟩

/-! ## §5. A good feed. -/

section Good

variable {P : Platform} {db : Db} {source : Source} {result : FetchResult} {now dbNow : Time}
  {seen : List Str}

/-- A good feed is parsed and recorded as a success, unless its header raises. -/
theorem parseAndPersist_good (hgood : GoodFeed P result)
    (hheader : ¬ MaxAgeRaises P result.headers) :
    ∃ ingested, (parseAndPersist P (Weather.quiet dbNow) db source result now seen).2 = .ok ingested
      ∧ ingested.outcome.ok = true
      ∧ recordFetchSuccess P source result.headers now = .ok ingested.source := by
  by_cases hstatus : result.statusCode = 304
  · -- nothing to insert: the success is all there is
    have hcheck : (Weather.quiet dbNow).check .citySlugMap = .ok () := rfl
    cases hsuccess : recordFetchSuccess P source result.headers now with
    | error e =>
        exact absurd ((recordFetchSuccess_error_iff P source result.headers now).mp ⟨e, hsuccess⟩)
          hheader
    | ok source' =>
        simp only [parseAndPersist, parseResult, hcheck, if_pos hstatus, hsuccess]
        exact ⟨_, rfl, rfl, rfl⟩
  · obtain ⟨parsed, hparse, hversion, hentries⟩ := hgood.resolve_left hstatus
    have herror := @parseAndPersist_quiet_error P db source result parsed now seen dbNow hstatus
      hparse hversion
    cases hrun : (parseAndPersist P (Weather.quiet dbNow) db source result now seen).2 with
    | error e =>
        -- entries and header are the two things that can raise here
        rcases herror.mp ⟨e, hrun⟩ with hentry | hraises
        · obtain ⟨entry, hmem, hbad⟩ := hentry
          exact absurd (hentries entry hmem) hbad
        · exact absurd hraises hheader
    | ok ingested =>
        obtain ⟨hok, hsource, -⟩ :=
          parseAndPersist_ok (quiet_onlyWritesFail dbNow) hstatus hparse hversion hrun
        exact ⟨ingested, rfl, hok, hsource⟩

/-- **A good feed whose max-age fits is a success.** -/
theorem persistStored_good {refusal : Str} (hgood : GoodFeed P result)
    (hfits : MaxAgeFits P result.headers) :
    let stored := persistStored P (Weather.quiet dbNow) refusal db source
      { sourceId := source.id, attemptedAt := now, fetched := .ok result } seen
    stored.2.ok = true ∧ recordFetchSuccess P source result.headers now = .ok stored.1 := by
  obtain ⟨maxAge, hparse, hcolumn⟩ := fits_iff.mpr hfits
  have hheader : ¬ MaxAgeRaises P result.headers := by
    intro h
    obtain ⟨e, he⟩ := h
    rw [hparse] at he
    cases he
  obtain ⟨ingested, hrun, hok, hsource⟩ :=
    @parseAndPersist_good P db source result now dbNow seen hgood hheader
  obtain ⟨maxAge', hparse', hrow⟩ := recordFetchSuccess_eq hsource
  obtain rfl : maxAge = maxAge' := Except.ok.inj (hparse.symm.trans hparse')
  -- the value fits the column, so the commit goes through
  have hstored : columnCheck refusal ingested.source = .ok () := by
    rw [hrow]
    exact if_pos hcolumn
  have hcommit : storeTxn (Weather.quiet dbNow) refusal (.ok ingested) = .ok ingested :=
    storeTxn_ok_iff.mpr ⟨hstored, rfl⟩
  unfold persistStored persistAttempt
  dsimp only
  rw [hrun, hcommit]
  exact ⟨hok, hsource⟩

end Good

/-! ## §6. The due check of a row so written. -/

theorem year9999_le : year9999 ≤ datetimeMax := by decide

/-- **A row so written is due without an overflow.** -/
theorem isDueChecked_written {P : Platform} {settings : Settings} {headers : Headers}
    {row : Source} (h : WrittenUnder P settings headers row) (now : Time) :
    isDueChecked row now settings = .ok (isDue row now settings) := by
  obtain ⟨refusal, source, stamp, source', failures, last, hminutes, hsuccess, hcolumn, hlast,
    rfl⟩ := h
  set row := { source'.afterFailures failures with lastFetchedAt := some last } with hrow
  have hinterval : effectiveIntervalSeconds row settings
      ≤ max (integerMax : Int) settings.schedulerMaxBackoffSeconds := by
    obtain ⟨maxAge, -, hwritten⟩ := recordFetchSuccess_eq hsuccess
    -- the interval of the schema is a week, and the column holds the max-age
    have hfits : source'.cacheMaxAgeSeconds.getD 0 ≤ integerMax := by
      unfold columnCheck at hcolumn
      split_ifs at hcolumn with hfits
      exact hfits
    have hbase : row.baseSeconds ≤ integerMax := by
      have hsame : row.fetchIntervalMinutes = source.fetchIntervalMinutes := by
        rw [hrow, hwritten]
        rfl
      show max ((row.fetchIntervalMinutes : Int) * 60) (source'.cacheMaxAgeSeconds.getD 0) ≤ _
      rw [hsame]
      unfold integerMax at hfits ⊢
      omega
    exact (interval_le_ceiling row settings).trans (max_le_max_right _ hbase)
  have hnonneg : 0 ≤ effectiveIntervalSeconds row settings :=
    row.baseSeconds_nonneg.trans (baseSeconds_le_interval row settings)
  have hfrom : last ≤ last + seconds (effectiveIntervalSeconds row settings) :=
    le_add_of_nonneg_right (seconds_nonneg hnonneg)
  have hupto : last + seconds (effectiveIntervalSeconds row settings) < year9999 :=
    (Int.add_le_add_left (seconds_mono hinterval) last).trans_lt hlast.2
  refine (isDueChecked_iff rfl).mpr ⟨?_, ⟨hlast.1.trans hfrom, hupto.le.trans year9999_le⟩, rfl⟩
  -- a wait inside the calendar is far shorter than a timedelta can be
  have hspan : seconds (effectiveIntervalSeconds row settings) < year9999 - datetimeMin :=
    lt_sub_iff_add_lt.mpr ((Int.add_le_add_left hlast.1 _).trans_lt
      (by rw [Int.add_comm]; exact hupto))
  have hshort : effectiveIntervalSeconds row settings * 1000000 < 315506361600 * 1000000 := hspan
  unfold IsTimedelta
  omega

/-! ## §7. Which headers do no harm. -/

/-- **A HEADER DOES NO HARM EXACTLY IF ITS MAX-AGE FITS**: no max-age counts, or
the one that does has at most 4300 digits and is at most 2147483647. -/
theorem header_harmless_iff (P : Platform) (headers : Headers) :
    HeaderHarmless P headers ↔ MaxAgeFits P headers := by
  constructor
  · intro h
    exact fits_iff.mp h.fits
  · intro hfits
    exact {
      fits := fits_iff.mpr hfits
      recorded := by
        intro refusal dbNow db source result now seen hheaders hgood
        subst hheaders
        exact persistStored_good hgood hfits
      due := by
        intro db now settings hrows
        refine loadDueTargetsChecked_eq fun row hmem hpolled => ?_
        -- a row is one this header wrote, or one that answered before
        rcases hrows row hmem hpolled with hwritten | hanswers
        · exact ⟨_, isDueChecked_written hwritten now⟩
        · exact hanswers }

/-- One second more than the column holds. -/
def longLived : Headers where
  cacheControl := some "public, max-age=2147483648".toList

/-- An unmodified feed under that header is recorded as a failure. -/
theorem longLived_harms : ¬ HeaderHarmless feedless longLived := by
  intro h
  have hrecorded := h.recorded "value out of int32 range".toList 0 {} (testTimes.row 1 1)
    { statusCode := 304, headers := longLived, content := [], finalUrl := testTimes.feedUrl }
    (seconds 1790000000) [] rfl (Or.inl rfl)
  -- the age does not fit the column, so the commit is what fails
  have hfailed : (persistStored feedless (Weather.quiet 0) "value out of int32 range".toList {}
      (testTimes.row 1 1)
      { sourceId := (testTimes.row 1 1).id, attemptedAt := seconds 1790000000
        fetched := .ok { statusCode := 304, headers := longLived, content := []
                         finalUrl := testTimes.feedUrl } } []).2.ok = false := by
    decide +kernel
  rw [hrecorded.1] at hfailed
  cases hfailed

end Feedcast
