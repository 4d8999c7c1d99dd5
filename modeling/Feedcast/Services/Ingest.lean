/-
  Feedcast.Services.Ingest — normalise a fetched feed into article rows
  (`services/ingest.py`).

  The two halves of one ingest are here as in the source: the conditional
  headers of the next fetch, and `parseAndPersist`, which runs inside the
  transaction of one source.  Everything in it that can raise returns in
  `Raises`; the tick's `seen_ids` is threaded separately, because it is a
  plain Python set and keeps what was added when the rest of the call raises.
-/
import Feedcast.Core.Hashing
import Feedcast.Core.Net
import Feedcast.Db.Models
import Feedcast.Lib.Except
import Feedcast.Lib.Table
import Mathlib.Data.List.Sort
import Mathlib.Data.Prod.Lex
import Mathlib.Data.Char
import Mathlib.Data.List.Lex

namespace Feedcast

open Feedcast.Lib

/-! ## §1. The canonical URL and the city in it. -/

/-- `_TRACKING_PARAMS`. -/
def trackingParams : List Str :=
  ["utm_source".toList, "utm_medium".toList, "utm_campaign".toList, "utm_term".toList,
    "utm_content".toList, "fbclid".toList, "gclid".toList, "cmpid".toList]

/-- Python's order on `(key, value)` tuples of text. -/
def pairLe (a b : Str × Str) : Prop := toLex a ≤ toLex b

instance : DecidableRel pairLe := fun a b => inferInstanceAs (Decidable (toLex a ≤ toLex b))

/-- The query pairs `canonicalize_url` keeps. -/
def keptPairs (P : Platform) (query : Str) : List (Str × Str) :=
  (parseQsl query).filter fun kv => P.lower kv.1 ∉ trackingParams

/-- `path.rstrip("/")`. -/
def rstripSlash (path : Str) : Str := rstrip (· == '/') path

/-- The parts `canonicalize_url` prints. -/
def canonicalParts (P : Platform) (parts : SplitResult) : SplitResult where
  scheme := parts.scheme
  netloc := parts.netloc
  path := if rstripSlash parts.path ≠ [] then rstripSlash parts.path else ['/']
  query := urlencode ((keptPairs P parts.query).insertionSort pairLe)
  fragment := []

def canonicalizeUrl (P : Platform) (url : Str) : Raises Str := do
  let parts ← urlsplit P url
  return urlunsplit (canonicalParts P parts)

/-- The segment after the first `city` segment, casefolded. -/
def citySegment (P : Platform) : List Str → Option Str
  | segment :: next :: rest =>
      if P.casefold segment = "city".toList then some (P.casefold next)
      else citySegment P (next :: rest)
  | _ => none

def extractCity (P : Platform) (url : Str) : Raises (Option Str) := do
  let parts ← urlsplit P url
  return citySegment P ((parts.path.splitOn '/').filter (· ≠ []))

/-! ## §2. One entry. -/

structure SourceIngestOutcome where
  sourceId : Nat
  ok : Bool
  newArticles : Nat
  error : Option Str
  notModified : Bool := false
  deriving Repr, DecidableEq

def buildConditionalHeaders (source : Source) : ConditionalHeaders where
  ifNoneMatch := truthy source.etag
  ifModifiedSince := truthy source.lastModified

/-- `_parse_time`. -/
def parseTime (P : Platform) : Option TimeTuple → Raises (Option Time)
  | none => .ok none
  | some t => do return some (← P.fromTimestamp (← P.mktime t))

/-- `_to_int`. -/
def toInt (P : Platform) (value : Option Str) : Option Int := value.bind P.int

/-- `_extract_images`. -/
def extractImages (P : Platform) (entry : Entry) : List Image :=
  (entry.mediaContent.filterMap fun media =>
    (truthy media.url).map fun url =>
      { url := some url, width := toInt P media.width, height := toInt P media.height,
        credit := none, caption := none })
  ++ (entry.links.filter fun link =>
      link.rel == some "enclosure".toList
        && "image/".toList.isPrefixOf (link.type.getD [])).map fun link =>
    { url := link.href, width := none, height := none, credit := none, caption := none }

/-- `city_slug_map`, as a lookup: of two rows with one slug the later wins. -/
def citySlugMap (cities : List City) (slug : Str) : Option Nat :=
  (cities.reverse.find? fun city => city.slug = slug).map (·.id)

/-- The summary as stored: prose only, and `none` when there is none. -/
def entrySummary (P : Platform) (rawSummary : Option Str) : Raises (Option Str) :=
  match truthy rawSummary with
  | none => .ok none
  | some summary => do return truthy (some (stripMarkup P (some (← P.htmlUnescape summary))))

/-- `_normalize_entry`. -/
def normalizeEntry (P : Platform) (source : Source) (entry : Entry) (feedPosition : Nat)
    (cities : Str → Option Nat) : Raises (Option ArticleRow) :=
  match truthy entry.link, truthy entry.title with
  | some link, some rawTitle => do
      let canonical ← canonicalizeUrl P link
      let title ← P.htmlUnescape rawTitle
      let summary ← entrySummary P entry.summary
      let text := title ++ ' ' :: summary.getD []
      let publishedAt ← parseTime P entry.publishedParsed
      let parsedCity ← extractCity P link
      return some
        { id := articleKey P canonical title
          sourceId := source.id
          url := link
          canonicalUrl := canonical
          title := title
          summary := summary
          publishedAt := publishedAt
          language := source.language
          feedPosition := some feedPosition
          images := extractImages P entry
          contentHash := contentHash P text
          city := parsedCity
          cityId := (truthy parsedCity).bind cities
          sensitivityFlags := (ruleBasedFlags P text).map (·.value)
          raw :=
            { title := rawTitle, link := link, summary := entry.summary
              categoryRaw := entry.tags.head?.bind id } }
  | _, _ => .ok none

/-- **What has been read by the time an entry is a row.** -/
theorem normalizeEntry_row {P : Platform} {source : Source} {entry : Entry} {position : Nat}
    {cities : Str → Option Nat} {row : ArticleRow}
    (h : normalizeEntry P source entry position cities = .ok (some row)) :
    ∃ rawTitle canonical parsedCity,
      truthy entry.link = some row.url ∧ truthy entry.title = some rawTitle
        ∧ canonicalizeUrl P row.url = .ok canonical
        ∧ P.htmlUnescape rawTitle = .ok row.title
        ∧ extractCity P row.url = .ok parsedCity
        ∧ row.id = articleKey P canonical row.title
        ∧ row.sourceId = source.id
        ∧ row.cityId = (truthy parsedCity).bind cities := by
  unfold normalizeEntry at h
  split at h
  · next link rawTitle hlink htitle =>
      -- every step that may raise came out, in the order of the source
      obtain ⟨canonical, hcanonical, h⟩ := except_bind_ok.mp h
      obtain ⟨title, hunescaped, h⟩ := except_bind_ok.mp h
      obtain ⟨summary, -, h⟩ := except_bind_ok.mp h
      obtain ⟨publishedAt, -, h⟩ := except_bind_ok.mp h
      obtain ⟨parsedCity, hcity, h⟩ := except_bind_ok.mp h
      cases h
      exact ⟨rawTitle, canonical, parsedCity, hlink, htitle, hcanonical, hunescaped, hcity, rfl,
        rfl, rfl⟩
  · cases h

/-! ## §3. The source's bookkeeping. -/

/-- `int(_)` on the digits of a match: `sys.set_int_max_str_digits` caps it. -/
def intOfDigits (P : Platform) (digits : Str) : Raises Nat :=
  if digits.length > 4300 then
    .error "Exceeds the limit (4300 digits) for integer string conversion".toList
  else .ok (digits.foldl (fun n c => n * 10 + (P.decimal c).getD 0) 0)

/-- `_NO_STORE_RE`. -/
def noStorePattern (P : Platform) : Pattern Char :=
  .seq (wordB P) (.seq (lit "no-") (.seq (oneOf "store" ["cache"]) (wordB P)))

/-- `_MAX_AGE_RE` up to its group, which the following digit opens. -/
def maxAgePattern (P : Platform) : Pattern Char :=
  .seq (wordB P) (.seq (lit "max-age") (.seq (.star isSpace) (.seq (.sym (· == '='))
    (.seq (.star isSpace) (.boundary fun _ next => next.any fun c => (P.decimal c).isSome)))))

def parseMaxAge (P : Platform) (headers : Headers) : Raises (Option Nat) :=
  match truthy headers.cacheControl with
  | none => .ok none
  | some directive =>
      if (noStorePattern P).search directive then .ok none
      else
        match (maxAgePattern P).find none directive with
        | [] => .ok none
        | (_, rest) :: _ => do
            return some (← intOfDigits P (rest.takeWhile fun c => (P.decimal c).isSome))

/-- `record_fetch_failure`. -/
def recordFetchFailure (source : Source) (error : Str) (now : Time) :
    Source × SourceIngestOutcome :=
  ({ source with
      lastError := some error, lastErrorAt := some now, lastFetchedAt := some now
      consecutiveFailures := source.consecutiveFailures + 1 },
    { sourceId := source.id, ok := false, newArticles := 0, error := some error })

/-- `_record_fetch_success`. -/
def recordFetchSuccess (P : Platform) (source : Source) (headers : Headers) (now : Time) :
    Raises Source := do
  let maxAge ← parseMaxAge P headers
  return { source with
    etag := orElse headers.etag source.etag
    lastModified := orElse headers.lastModified source.lastModified
    cacheMaxAgeSeconds := maxAge
    lastSuccessAt := some now
    lastFetchedAt := some now
    consecutiveFailures := 0
    lastError := none
    lastErrorAt := none }

/-! ## §4. Parse and persist. -/

/-- The places a persist can be made to raise from outside. -/
inductive Point where
  | citySlugMap
  | parse
  | normalize (position : Nat)
  | insert
  | commit
  deriving Repr, DecidableEq

/-- What the environment does to one transaction: which calls raise, and the
database's own clock. -/
structure Weather where
  raises : Point → Option Str
  dbNow : Time

def Weather.check (w : Weather) (p : Point) : Raises Unit :=
  match w.raises p with
  | some e => .error e
  | none => .ok ()

/-- The entry loop: the insert rows of the ids not seen before, and `seen_ids`
as the loop leaves it, also when an entry raises. -/
def collectRows (P : Platform) (w : Weather) (source : Source) (cities : Str → Option Nat) :
    Nat → List Entry → List Str → List Str × Raises (List ArticleRow)
  | _, [], seen => (seen, .ok [])
  | position, entry :: rest, seen =>
      match w.check (.normalize position), normalizeEntry P source entry position cities with
      | .error e, _ => (seen, .error e)
      | .ok (), .error e => (seen, .error e)
      -- no link or no title
      | .ok (), .ok none => collectRows P w source cities (position + 1) rest seen
      | .ok (), .ok (some article) =>
          if article.id ∈ seen then collectRows P w source cities (position + 1) rest seen
          else
            let (seen', rows) :=
              collectRows P w source cities (position + 1) rest (article.id :: seen)
            (seen', rows.map (article :: ·))

/-- What a transaction leaves to commit. -/
structure Ingested where
  outcome : SourceIngestOutcome
  source : Source
  /-- The rows the insert reported as new. -/
  articles : List Article
  deriving Repr, DecidableEq

def unrecognised (parsed : Parsed) : Str :=
  "response did not parse as a feed: ".toList
    ++ (if parsed.bozo then parsed.bozoException else "unrecognized format".toList)

/-- Where the first half of a persist ends: nothing to insert, or the rows of
one insert. -/
inductive Parse where
  | done (ingested : Ingested)
  | rows (rows : List ArticleRow)
  deriving Repr, DecidableEq

/-- `parse_and_persist` up to the insert.  `cities` is what its `city_slug_map`
query returned. -/
def parseResult (P : Platform) (w : Weather) (cities : List City) (source : Source)
    (result : FetchResult) (now : Time) (seen : List Str) : List Str × Raises Parse :=
  match w.check .citySlugMap with
  | .error e => (seen, .error e)
  | .ok () =>
      if result.statusCode = 304 then
        -- a 304 refreshes the validators too
        (seen, do
          let source' ← recordFetchSuccess P source result.headers now
          return .done
            { outcome := { sourceId := source.id, ok := true, newArticles := 0
                           error := none, notModified := true }
              source := source'
              articles := [] })
      else
        match w.check .parse, P.feedparse result.content with
        | .error e, _ => (seen, .error e)
        | .ok (), .error e => (seen, .error e)
        | .ok (), .ok parsed =>
            if parsed.version = [] then
              -- recorded on the source, and committed like a success
              let (source', outcome) := recordFetchFailure source (unrecognised parsed) now
              (seen, .ok (.done { outcome := outcome, source := source', articles := [] }))
            else
              let (seen', rows) :=
                collectRows P w source (citySlugMap cities) 1 parsed.entries seen
              (seen', rows.map .rows)

/-- The success record, once the insert has reported the new rows. -/
def recordInserted (P : Platform) (source : Source) (headers : Headers) (now : Time)
    (new : List Article) : Raises Ingested := do
  let source' ← recordFetchSuccess P source headers now
  return { outcome := { sourceId := source.id, ok := true, newArticles := new.length
                        error := none }
           source := source'
           articles := new }

/-- `parse_and_persist` from the insert on. -/
def insertRows (P : Platform) (w : Weather) (articles : List Article) (source : Source)
    (headers : Headers) (now : Time) (rows : List ArticleRow) : Raises Ingested := do
  -- without rows no statement is sent
  if rows ≠ [] then w.check .insert
  recordInserted P source headers now
    (inserted (fun a : Article => a.id) articles (rows.map (·.insert w.dbNow)))

/-- `parse_and_persist`, up to the commit. -/
def parseAndPersist (P : Platform) (w : Weather) (db : Db) (source : Source)
    (result : FetchResult) (now : Time) (seen : List Str) : List Str × Raises Ingested :=
  let (seen', parse) := parseResult P w db.cities source result now seen
  (seen', do
    match ← parse with
    | .done ingested => return ingested
    | .rows rows => insertRows P w db.articles source result.headers now rows)

end Feedcast
