/-
  Feedcast.Ingest.ManualCheck — a manual check against a scheduled poll.

  Both look at the same parser result, a check at `bozo` and the entries, a
  poll at `version`; a poll can raise on an entry, on a header and on what the
  database does not take besides:

    • `pollOk_iff` — when a poll is ok,
    • `persistStored_failed`, `persistStored_passed`, `persistStored_unfit` — what
      its commit leaves of the row,
    • `check_agrees_iff` — hence when they agree, on the verdict and on the
      condition of `last_error`, `last_error_at` and `last_success_at`,
    • `verdicts_part` — a page that is no feed, and a feed cut short.
-/
import Feedcast.Fetch.Failures
import Feedcast.Polling.MaxAge

namespace Feedcast

open Feedcast.Lib

/-! ## §1. The two verdicts. -/

/-- The three columns, set or cleared alike. -/
structure SameCondition (a b : Source) : Prop where
  lastError : a.lastError.isSome = b.lastError.isSome
  lastErrorAt : a.lastErrorAt.isSome = b.lastErrorAt.isSome
  lastSuccessAt : a.lastSuccessAt.isSome = b.lastSuccessAt.isSome

/-- `parse_and_persist` returned ok. -/
def PollOk (poll : Raises Ingested) : Prop := ∃ ingested, poll = .ok ingested ∧ ingested.outcome.ok

/-- The attempt that brought a response. -/
def Source.attempt (source : Source) (now : Time) (result : FetchResult) : FetchAttempt where
  sourceId := source.id
  attemptedAt := now
  fetched := .ok result

/-- What the database has against what it is sent, `none` where it takes it: the
row of the check, the rows of the poll (a NUL in a title, more of them than one
statement holds) and its commit; and what it says of a number that its column does
not hold. -/
structure Refusals where
  check : Option Str := none
  insert : Option Str := none
  commit : Option Str := none
  number : Str := "value out of int32 range".toList
  deriving Repr, DecidableEq

/-- A poll on such a database. -/
def Refusals.weather (refusals : Refusals) (dbNow : Time) : Weather where
  raises
    | .insert => refusals.insert
    | .commit => refusals.commit
    | _ => none
  dbNow := dbNow

theorem weather_onlyWritesFail (refusals : Refusals) (dbNow : Time) :
    (refusals.weather dbNow).OnlyWritesFail :=
  ⟨rfl, rfl, fun _ => rfl⟩

/-- `check_source`, with its commit. -/
def checkStored (P : Platform) (net : Internet) (settings : Settings) (refusals : Refusals)
    (db : Db) (sourceId : Nat) (now : Time) : Except CheckRaise (Db × SourceCheckResult) := do
  let answered ← checkSource P net settings db sourceId now
  match refusals.check with
  | some e => throw (.uncaught (.other e))
  | none => return answered

/-- **A manual check and a scheduled poll agree**: the check answers, with ok
exactly if the poll of `result` is ok, and both leave the row in the same
condition once they have committed. -/
def CheckAgrees (P : Platform) (net : Internet) (settings : Settings) (refusals : Refusals)
    (db : Db) (source : Source) (result : FetchResult) (now dbNow : Time) (seen : List Str) :
    Prop :=
  ∃ db' checked answer,
    checkStored P net settings refusals db source.id now = .ok (db', answer)
      ∧ db'.getSource source.id = some checked
      ∧ (answer.ok ↔
        PollOk (parseAndPersist P (refusals.weather dbNow) db source result now seen).2)
      ∧ SameCondition checked
          (persistStored P (refusals.weather dbNow) refusals.number db source
            (source.attempt now result) seen).1

section Agrees

variable {P : Platform} {net : Internet} {settings : Settings} {refusals : Refusals} {db : Db}
  {source checked : Source} {result : FetchResult} {now dbNow : Time} {seen : List Str}
  {answer : SourceCheckResult}

/-- **Agreement, on what the check answers and leaves.** -/
theorem checkAgrees_of_check (hsource : db.getSource source.id = some source)
    (hcheck : checkSource P net settings db source.id now = .ok (db.putSource checked, answer))
    (hid : checked.id = source.id) :
    CheckAgrees P net settings refusals db source result now dbNow seen ↔
      refusals.check = none
        ∧ (answer.ok ↔
          PollOk (parseAndPersist P (refusals.weather dbNow) db source result now seen).2)
        ∧ SameCondition checked
            (persistStored P (refusals.weather dbNow) refusals.number db source
              (source.attempt now result) seen).1 := by
  have hget : (db.putSource checked).getSource source.id = some checked := by
    rw [← hid] at hsource ⊢
    exact getRow_setRow_self Source.id hsource
  unfold CheckAgrees checkStored
  rw [hcheck]
  cases hrefused : refusals.check with
  | some e =>
      -- a check whose row is refused does not answer
      refine iff_of_false ?_ nofun
      intro h
      obtain ⟨db', checked', answer', hanswered, -⟩ := h
      cases hanswered
  | none =>
      constructor
      · intro h
        obtain ⟨db', checked', answer', hanswered, hget', hverdict, hrow⟩ := h
        -- the check has one answer, so what it wrote is what is compared
        cases hanswered
        rw [hget, Option.some.injEq] at hget'
        subst hget'
        exact ⟨rfl, hverdict, hrow⟩
      · intro h
        exact ⟨_, _, _, rfl, hget, h.2.1, h.2.2⟩

end Agrees

section Response

variable {P : Platform} {w : Weather} {refusal : Str} {db : Db} {source : Source}
  {result : FetchResult} {parsed : Parsed} {now : Time} {seen : List Str} {ingested : Ingested}

/-- A poll of a page that is no feed. -/
theorem parseAndPersist_unrecognised (hw : w.OnlyWritesFail) (hstatus : result.statusCode ≠ 304)
    (hparse : P.feedparse result.content = .ok parsed) (hversion : parsed.version = []) :
    (parseAndPersist P w db source result now seen).2
      = .ok { outcome := (recordFetchFailure source (unrecognised parsed) now).2
              source := (recordFetchFailure source (unrecognised parsed) now).1
              articles := [] } := by
  simp only [parseAndPersist, parseResult, hw.citySlugMap, hw.parse, if_neg hstatus, hparse,
    if_pos hversion]
  rfl

/-- **When a poll is ok.** -/
theorem pollOk_iff (hw : w.OnlyWritesFail) (hstatus : result.statusCode ≠ 304)
    (hparse : P.feedparse result.content = .ok parsed) :
    PollOk (parseAndPersist P w db source result now seen).2 ↔
      ¬ (parsed.version = [] ∨ (∃ entry ∈ parsed.entries, ¬ EntryNormalizable P entry)
        ∨ (SendsRow P db.cities source parsed.entries seen ∧ w.raises .insert ≠ none)
        ∨ MaxAgeRaises P result.headers) := by
  -- a page that is no feed is a failure on record, and no exception
  by_cases hversion : parsed.version = []
  · rw [parseAndPersist_unrecognised hw hstatus hparse hversion]
    refine iff_of_false ?_ (not_not_intro (Or.inl hversion))
    intro h
    obtain ⟨ingested, hrun, hok⟩ := h
    cases hrun
    cases hok
  · rw [or_iff_right hversion,
        ← @parseAndPersist_error_iff P w db source result parsed now seen hw hstatus hparse
          hversion]
    cases hrun : (parseAndPersist P w db source result now seen).2 with
    | error e => exact iff_of_false (fun h => by obtain ⟨_, h, -⟩ := h; cases h) (by simp)
    | ok ingested =>
        have hok := (parseAndPersist_ok hw hstatus hparse hversion hrun).1
        exact iff_of_true ⟨ingested, rfl, hok⟩ (by simp)

/-- A success record sets and clears what a passed check does. -/
theorem recordFetchSuccess_condition {headers : Headers} {polled : Source}
    (h : recordFetchSuccess P source headers now = .ok polled) :
    SameCondition (source.checkPassed now) polled := by
  obtain ⟨maxAge, -, rfl⟩ := recordFetchSuccess_eq h
  exact ⟨rfl, rfl, rfl⟩

/-- A failure record sets and clears what a failed check does. -/
theorem recordFetchFailure_condition (source : Source) (error error' : Str) (now : Time) :
    SameCondition (source.checkFailed error now) (recordFetchFailure source error' now).1 :=
  ⟨rfl, rfl, rfl⟩

/-- The row of a round that raised, before the commit or in it. -/
theorem persistStored_raised (error : Str) {e : Str}
    (hraised : storeTxn w refusal (parseAndPersist P w db source result now seen).2 = .error e) :
    SameCondition (source.checkFailed error now)
      (persistStored P w refusal db source (source.attempt now result) seen).1 := by
  -- the transaction is rolled back, and the failure is written on its own
  have hround : persistStored P w refusal db source (source.attempt now result) seen
      = recordFetchFailure source (persistFailed e) now := by
    unfold persistStored persistAttempt Source.attempt
    dsimp only
    rw [hraised]
  rw [hround]
  exact recordFetchFailure_condition source error _ now

/-- The row of a round that is committed. -/
theorem persistStored_stored
    (hstored : storeTxn w refusal (parseAndPersist P w db source result now seen).2
      = .ok ingested) :
    (persistStored P w refusal db source (source.attempt now result) seen).1
      = ingested.source := by
  unfold persistStored persistAttempt Source.attempt
  dsimp only
  rw [hstored]

/-- **A poll that is not ok leaves a failure**, committed or recorded. -/
theorem persistStored_failed (hw : w.OnlyWritesFail) (hstatus : result.statusCode ≠ 304)
    (hparse : P.feedparse result.content = .ok parsed) (error : Str)
    (hpoll : ¬ PollOk (parseAndPersist P w db source result now seen).2) :
    SameCondition (source.checkFailed error now)
      (persistStored P w refusal db source (source.attempt now result) seen).1 := by
  cases hrun : (parseAndPersist P w db source result now seen).2 with
  | error e =>
      apply persistStored_raised error (e := e)
      rw [hrun]
      rfl
  | ok failed =>
      -- it returned without being ok, so the page was no feed
      have hversion : parsed.version = [] := by
        by_contra hversion
        obtain ⟨hok, -⟩ := parseAndPersist_ok hw hstatus hparse hversion hrun
        exact hpoll ⟨failed, hrun, hok⟩
      have hsame := hrun
      rw [parseAndPersist_unrecognised hw hstatus hparse hversion] at hsame
      rcases storeTxn_cases w refusal failed with hstored | ⟨e, hraised⟩
      · rw [← hrun] at hstored
        rw [persistStored_stored (hstored.trans hrun)]
        cases hsame
        exact recordFetchFailure_condition source error _ now
      · exact persistStored_raised error (hrun ▸ hraised)

/-- What an ok poll has ready to commit, and whether it is stored. -/
theorem PollOk.stored (refusal : Str) (hw : w.OnlyWritesFail) (hstatus : result.statusCode ≠ 304)
    (hparse : P.feedparse result.content = .ok parsed)
    (hpoll : PollOk (parseAndPersist P w db source result now seen).2) :
    ∃ ingested, (parseAndPersist P w db source result now seen).2 = .ok ingested
      ∧ recordFetchSuccess P source result.headers now = .ok ingested.source
      ∧ (storeTxn w refusal (.ok ingested) = .ok ingested
        ↔ MaxAgeFits P result.headers ∧ w.raises .commit = none) := by
  have hversion : parsed.version ≠ [] := by
    intro hversion
    exact (pollOk_iff hw hstatus hparse).mp hpoll (Or.inl hversion)
  obtain ⟨ingested, hrun, -⟩ := hpoll
  obtain ⟨-, hsuccess, -⟩ := parseAndPersist_ok hw hstatus hparse hversion hrun
  obtain ⟨maxAge, hmaxAge, hrow⟩ := recordFetchSuccess_eq hsuccess
  refine ⟨ingested, hrun, hsuccess, storeTxn_ok_iff.trans (and_congr_left' ?_)⟩
  -- no max-age is no value to refuse
  have hcolumn : columnCheck refusal ingested.source
      = if maxAge.getD 0 ≤ integerMax then .ok () else .error refusal := by
    rw [hrow]
    rfl
  rw [hcolumn, ← fits_iff, hmaxAge]
  by_cases hfits : maxAge.getD 0 ≤ integerMax
  · rw [if_pos hfits]
    exact iff_of_true rfl ⟨maxAge, rfl, hfits⟩
  · rw [if_neg hfits]
    refine iff_of_false nofun ?_
    intro h
    obtain ⟨_, hsame, hheld⟩ := h
    cases hsame
    exact hfits hheld

/-- **A poll that is ok leaves a success**, if its max-age fits the column and
its commit is taken. -/
theorem persistStored_passed (hw : w.OnlyWritesFail) (hstatus : result.statusCode ≠ 304)
    (hparse : P.feedparse result.content = .ok parsed)
    (hpoll : PollOk (parseAndPersist P w db source result now seen).2)
    (hfits : MaxAgeFits P result.headers ∧ w.raises .commit = none) :
    SameCondition (source.checkPassed now)
      (persistStored P w refusal db source (source.attempt now result) seen).1 := by
  obtain ⟨ingested, hrun, hsuccess, hstored⟩ := PollOk.stored refusal hw hstatus hparse hpoll
  rw [persistStored_stored ((congrArg _ hrun).trans (hstored.mpr hfits))]
  exact recordFetchSuccess_condition hsuccess

/-- **A poll that is ok leaves a failure all the same**, if its max-age does not
fit or its commit is refused. -/
theorem persistStored_unfit (refusal : Str) (hw : w.OnlyWritesFail)
    (hstatus : result.statusCode ≠ 304)
    (hparse : P.feedparse result.content = .ok parsed) (error : Str)
    (hpoll : PollOk (parseAndPersist P w db source result now seen).2)
    (hfits : ¬ (MaxAgeFits P result.headers ∧ w.raises .commit = none)) :
    SameCondition (source.checkFailed error now)
      (persistStored P w refusal db source (source.attempt now result) seen).1 := by
  obtain ⟨ingested, hrun, -, hstored⟩ := PollOk.stored refusal hw hstatus hparse hpoll
  -- the success is rolled back at the commit, and recorded as a failure
  rcases storeTxn_cases w refusal ingested with hkept | ⟨e, hraised⟩
  · exact absurd (hstored.mp hkept) hfits
  · exact persistStored_raised error ((congrArg _ hrun).trans hraised)

end Response

/-! ## §2. Agreement. -/

/-- A response a poll does not take: no feed, or one that raises on an entry, on
the insert of its rows or on its `max-age`. -/
def PollBreaks (P : Platform) (refusals : Refusals) (db : Db) (source : Source)
    (result : FetchResult) (parsed : Parsed) (seen : List Str) : Prop :=
  parsed.version = [] ∨ (∃ entry ∈ parsed.entries, ¬ EntryNormalizable P entry)
    ∨ (SendsRow P db.cities source parsed.entries seen ∧ refusals.insert ≠ none)
    ∨ MaxAgeRaises P result.headers

/-- **CHECK AND POLL AGREE EXACTLY IF** the response is broken for both, or for
neither: cut short with no entry on the one side, and on the other no feed, or one
that raises on an entry, on its rows or on its `max-age`.  In the second case its
`max-age` must fit the column besides.  The database takes what the check writes,
and in the second case what the poll commits. -/
theorem check_agrees_iff (P : Platform) (net : Internet) (settings : Settings)
    (refusals : Refusals) (db : Db) (source : Source) (result : FetchResult) (parsed : Parsed)
    (now dbNow : Time) (seen : List Str) (hsource : db.getSource source.id = some source)
    (hfetch : (fetchUrl P net settings source.feedUrl).2 = .ok result)
    (hstatus : result.statusCode = 200) (hparse : P.feedparse result.content = .ok parsed) :
    CheckAgrees P net settings refusals db source result now dbNow seen ↔
      refusals.check = none
        ∧ ((parsed.bozo ∧ parsed.entries = [])
          ↔ PollBreaks P refusals db source result parsed seen)
        ∧ (PollBreaks P refusals db source result parsed seen
          ∨ MaxAgeFits P result.headers ∧ refusals.commit = none) := by
  have hnot304 : result.statusCode ≠ 304 := by omega
  have hw := weather_onlyWritesFail refusals dbNow
  have hpoll : PollOk (parseAndPersist P (refusals.weather dbNow) db source result now seen).2
      ↔ ¬ PollBreaks P refusals db source result parsed seen := pollOk_iff hw hnot304 hparse
  by_cases hempty : parsed.bozo ∧ parsed.entries = []
  · have hcheck := @checkSource_fetched P net settings db source.id source now hsource result
      hfetch _ _ (checkResponse_failed hparse hempty)
    rw [checkAgrees_of_check hsource hcheck rfl, iff_true_left hempty]
    refine and_congr_right fun _ => ?_
    constructor
    · intro h
      have hbreaks : PollBreaks P refusals db source result parsed seen := by
        by_contra hfine
        exact absurd (h.1.mpr (hpoll.mpr hfine)) (by simp)
      exact ⟨hbreaks, Or.inl hbreaks⟩
    · intro h
      have hbad := fun hok => hpoll.mp hok h.1
      exact ⟨iff_of_false (by simp) hbad, persistStored_failed hw hnot304 hparse _ hbad⟩
  · have hcheck := @checkSource_fetched P net settings db source.id source now hsource result
      hfetch _ _ (checkResponse_passed hparse hempty)
    rw [checkAgrees_of_check hsource hcheck rfl, iff_false_left hempty]
    refine and_congr_right fun _ => ?_
    constructor
    · intro h
      have hok := h.1.mp rfl
      refine ⟨hpoll.mp hok, Or.inr ?_⟩
      -- what is not stored would leave a failure
      by_contra hfits
      have hfailed := (persistStored_unfit refusals.number hw hnot304 hparse [] hok
        hfits).lastError
      rw [← h.2.lastError] at hfailed
      cases hfailed
    · intro h
      have hok := hpoll.mpr h.1
      exact ⟨iff_of_true rfl hok,
        persistStored_passed hw hnot304 hparse hok (h.2.resolve_left h.1)⟩

/-- What the parser makes of a feed that breaks off before its first item. -/
def cutShort : Parsed where
  version := "rss20".toList
  bozo := true
  bozoException := "no element found".toList
  entries := []

/-- The ASCII platform on which every body is such a feed. -/
def cutFeeds : Platform := asciiPlatform fun _ => .ok cutShort

/-- The feed of the test source, on a network that answers. -/
theorem fetchUrl_everyHost (P : Platform) (hP : ∃ feedparse, P = asciiPlatform feedparse) :
    (fetchUrl P everyHost defaultSettings (testTimes.row 1 1).feedUrl).2
      = .ok okResult := by
  obtain ⟨feedparse, rfl⟩ := hP
  unfold fetchUrl fetchUrlAsync
  rw [fetchLoop_of_done rfl rfl]
  rfl

/-- **THE VERDICTS PART BOTH WAYS**: a plain page passes the check and fails
the poll, a feed cut short fails the check and passes the poll. -/
theorem verdicts_part :
    ¬ CheckAgrees plainPages everyHost defaultSettings {} twoSources (testTimes.row 1 1)
        okResult 0 0 []
      ∧ ¬ CheckAgrees cutFeeds everyHost defaultSettings {} twoSources (testTimes.row 1 1)
          okResult 0 0 [] := by
  have hsource : twoSources.getSource (testTimes.row 1 1).id = some (testTimes.row 1 1) := rfl
  constructor
  · intro h
    have hcheck := @checkSource_fetched plainPages everyHost defaultSettings twoSources _ _ 0
      hsource okResult (fetchUrl_everyHost plainPages ⟨_, rfl⟩) _ _
      (checkResponse_passed rfl (by decide))
    obtain ⟨-, hverdict, -⟩ := (checkAgrees_of_check hsource hcheck rfl).mp h
    obtain ⟨ingested, hrun, hok⟩ := hverdict.mp rfl
    rw [parseAndPersist_unrecognised (weather_onlyWritesFail {} 0) (by decide) rfl rfl] at hrun
    cases hrun
    cases hok
  · intro h
    have hcheck := @checkSource_fetched cutFeeds everyHost defaultSettings twoSources _ _ 0
      hsource okResult (fetchUrl_everyHost cutFeeds ⟨_, rfl⟩) _ _
      (checkResponse_failed rfl (by decide))
    have hpoll : PollOk (parseAndPersist cutFeeds (Refusals.weather {} 0) twoSources
        (testTimes.row 1 1) okResult 0 []).2 := by
      rw [@pollOk_iff _ _ twoSources _ okResult cutShort 0 [] (weather_onlyWritesFail {} 0)
        (by decide) rfl]
      intro hbroken
      -- a cut feed: well formed as far as the poll can see
      rcases hbroken with hversion | ⟨entry, hentry, -⟩ | ⟨-, hrefused⟩ | ⟨e, hmax⟩
      · cases hversion
      · cases hentry
      · exact hrefused rfl
      · cases hmax
    exact absurd (((checkAgrees_of_check hsource hcheck rfl).mp h).2.1.mpr hpoll) (by simp)

/-- On the feed of one story they agree. -/
theorem check_agrees_iff_oneStory :
    CheckAgrees oneStory everyHost defaultSettings {} twoSources (testTimes.row 1 1)
      okResult 0 0 [] := by
  refine (check_agrees_iff oneStory everyHost defaultSettings {} twoSources
    (testTimes.row 1 1) okResult _ 0 0 [] rfl (fetchUrl_everyHost oneStory ⟨_, rfl⟩) rfl rfl).mpr ?_
  have hfine : ¬ PollBreaks oneStory {} twoSources (testTimes.row 1 1) okResult
      { version := "rss20".toList, bozo := false, bozoException := []
        entries := [drainageEntry] } [] := by
    intro hbroken
    -- its one entry is in order, and it has no header
    rcases hbroken with hversion | ⟨entry, hentry, hbad⟩ | ⟨-, hrefused⟩ | ⟨e, hmax⟩
    · cases hversion
    · obtain rfl := List.mem_singleton.mp hentry
      refine hbad ?_
      intro link title hlink _
      cases hlink
      exact ⟨⟨_, rfl⟩, ⟨_, rfl⟩, nofun, nofun⟩
    · exact hrefused rfl
    · cases hmax
  have hheaders : MaxAgeFits oneStory okResult.headers := nofun
  exact ⟨rfl, iff_of_false (by simp) hfine, Or.inr ⟨hheaders, rfl⟩⟩

end Feedcast
