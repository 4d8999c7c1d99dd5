/-
  Feedcast.Core.Net — the SSRF-safe outbound fetch (`core/net.py`).

  The resolver, the servers and httpx are an `Internet`: what each of them
  answers at each hop, or raises.  `fetchUrlAsync` returns the GETs it sent
  along with its result, so that what left the process can be spoken about.

    • `validatePublicUrl_ok` — what a URL has passed when it is requested,
    • `exchange_redirect` — a redirect is followed within the limit only,
    • `fetchLoop_of_invalid` … `fetchLoop_of_redirect` — one pass of the loop.
-/
import Feedcast.Core.Address
import Feedcast.Core.Config
import Feedcast.Core.Text
import Feedcast.Core.Url

namespace Feedcast

/-! ## §1. Results and exceptions. -/

/-- The response headers the application reads, `location` apart. -/
structure Headers where
  etag : Option Str := none
  lastModified : Option Str := none
  cacheControl : Option Str := none
  deriving Repr, DecidableEq

structure FetchResult where
  statusCode : Nat
  headers : Headers
  content : List UInt8
  finalUrl : Str
  deriving Repr, DecidableEq

/-- The request headers of a conditional GET. -/
structure ConditionalHeaders where
  ifNoneMatch : Option Str
  ifModifiedSince : Option Str
  deriving Repr, DecidableEq

/-- `FetchError`, by its subclasses. -/
inductive FetchError where
  | unsafeUrl (text : Str)
  | tooLarge (text : Str)
  | transport (text : Str)
  deriving Repr, DecidableEq

/-- `str(exc)`. -/
def FetchError.text : FetchError → Str
  | .unsafeUrl text => text
  | .tooLarge text => text
  | .transport text => text

/-- What the libraries under a fetch raise, by the families its handlers tell
apart: `httpx.InvalidURL` is no `httpx.HTTPError`, and a `UnicodeError` is no
`socket.gaierror`. -/
inductive Exc where
  | valueError (text : Str)
  | unicodeError (text : Str)
  | gaierror (text : Str)
  | httpError (text : Str)
  | invalidUrl (text : Str)
  | other (text : Str)
  deriving Repr, DecidableEq

/-- What leaves `fetch_url_async` in place of a result. -/
inductive FetchRaise where
  | fetchError (e : FetchError)
  | uncaught (e : Exc)
  deriving Repr, DecidableEq

abbrev Fetching (α : Type) := Except FetchRaise α

def unsafeUrl (text : Str) : FetchRaise := .fetchError (.unsafeUrl text)

/-! ## §2. What is outside. -/

structure Response where
  /-- `str(response.url)`. -/
  url : Str
  statusCode : Nat
  headers : Headers := {}
  location : Option Str := none
  /-- The body, as `aiter_bytes` yields it. -/
  chunks : List (List UInt8) := []
  /-- What ends the body before its time. -/
  interrupted : Option Exc := none
  deriving Repr, DecidableEq

/-- The resolver, the servers and httpx.  The hop is how many redirects have
been followed: each may answer differently each time it is asked. -/
structure Internet where
  /-- `loop.getaddrinfo`. -/
  resolve : Nat → Str → Except Exc (List IPAddress)
  /-- `client.stream("GET", url, headers=…)`. -/
  send : Nat → Str → ConditionalHeaders → Except Exc Response
  /-- `str(response.url.join(location))`. -/
  join : Str → Str → Except Exc Str

/-! ## §3. Validation. -/

/-- `ALLOWED_SCHEMES`. -/
def allowedSchemes : List Str := ["http".toList, "https".toList]

/-- One of the six tests of `_reject_non_public`. -/
def IPAddress.nonPublic (ip : IPAddress) : Bool :=
  ip.isPrivate || ip.isLoopback || ip.isLinkLocal || ip.isReserved || ip.isMulticast
    || ip.isUnspecified

/-- `_reject_non_public`. -/
def rejectNonPublic (P : Platform) (hostname : Str) : List IPAddress → Except FetchError Unit
  | [] => .ok ()
  | ip :: rest =>
      if ip.nonPublic then
        .error (.unsafeUrl
          (reprStr P hostname ++ " resolves to non-public address ".toList ++ ip.text))
      else rejectNonPublic P hostname rest

/-- `SplitResult.hostname`: the user and the port go, a zone keeps its case. -/
def SplitResult.hostname (P : Platform) (parts : SplitResult) : Option Str :=
  let hostinfo := (parts.netloc.reverse.takeWhile (· ≠ '@')).reverse
  let host :=
    if '[' ∈ hostinfo then (cut ']' (cut '[' hostinfo).2).1 else (cut ':' hostinfo).1
  if host = [] then none
  else some (P.lower (cut '%' host).1 ++ host.dropWhile (· ≠ '%'))

/-- `_parse_target`.  `urlparse` splits the URL as `urlsplit` does. -/
def parseTarget (P : Platform) (url : Str) : Fetching Str :=
  match urlsplit P url with
  | .error e => .error (.uncaught (.valueError e))
  | .ok parsed =>
      if parsed.scheme ∉ allowedSchemes then
        .error (unsafeUrl
          ("scheme ".toList ++ reprStr P parsed.scheme ++ " is not allowed".toList))
      else
        match truthy (parsed.hostname P) with
        | none => .error (unsafeUrl "URL has no hostname".toList)
        | some hostname => .ok hostname

/-- `_validate_public_url`. -/
def validatePublicUrl (P : Platform) (net : Internet) (hop : Nat) (url : Str) : Fetching Unit := do
  let hostname ← parseTarget P url
  match net.resolve hop hostname with
  | .error (.gaierror _) =>
      throw (unsafeUrl ("could not resolve host ".toList ++ reprStr P hostname))
  | .error e => throw (.uncaught e)
  | .ok addrInfos => (rejectNonPublic P hostname addrInfos).mapError .fetchError

/-! ## §4. One exchange. -/

/-- The `location` of `has_redirect_location`: not of any 3xx, a 304 has none. -/
def Response.redirectLocation (response : Response) : Option Str :=
  if response.statusCode ∈ [301, 302, 303, 307, 308] then response.location else none

def tooLarge (limit : Int) : FetchRaise :=
  .fetchError (.tooLarge
    ("response exceeded ".toList ++ (toString limit).toList ++ " bytes".toList))

/-- The loop over the chunks of a body. -/
def readBody (limit : Int) (content : List UInt8) :
    List (List UInt8) → Option Exc → Fetching (List UInt8)
  | [], none => .ok content
  | [], some e => .error (.uncaught e)
  | chunk :: rest, interrupted =>
      if ((content ++ chunk).length : Int) > limit then .error (tooLarge limit)
      else readBody limit (content ++ chunk) rest interrupted

/-- How one pass of the loop goes on. -/
inductive Hop where
  | redirect (url : Str)
  | done (result : FetchResult)
  deriving Repr, DecidableEq

/-- The statements under `async with client.stream(…)`. -/
def handleResponse (net : Internet) (settings : Settings) (followed : Nat) (response : Response) :
    Fetching Hop :=
  match response.redirectLocation with
  | some location =>
      if ((followed + 1 : Nat) : Int) > settings.fetchMaxRedirects then
        .error (unsafeUrl "too many redirects".toList)
      else
        match net.join response.url location with
        | .error e => .error (.uncaught e)
        | .ok url => .ok (.redirect url)
  | none => do
      let content ← readBody settings.fetchMaxResponseBytes [] response.chunks response.interrupted
      return .done
        { statusCode := response.statusCode, headers := response.headers, content := content
          finalUrl := response.url }

/-- `except httpx.HTTPError`. -/
def FetchRaise.transported : FetchRaise → FetchRaise
  | .uncaught (.httpError text) => .fetchError (.transport text)
  | e => e

/-- `async with client.stream(…)`. -/
def withStream (net : Internet) (settings : Settings) (headers : ConditionalHeaders)
    (followed : Nat) (url : Str) : Fetching Hop :=
  match net.send followed url headers with
  | .error e => .error (.uncaught e)
  | .ok response => handleResponse net settings followed response

/-- The `try` block of the loop, with its handler. -/
def exchange (net : Internet) (settings : Settings) (headers : ConditionalHeaders)
    (followed : Nat) (url : Str) : Fetching Hop :=
  (withStream net settings headers followed url).mapError FetchRaise.transported

theorem mapError_ok {ε ε' α : Type} {f : ε → ε'} {x : Except ε α} {a : α} :
    x.mapError f = .ok a ↔ x = .ok a := by
  cases x with
  | error e => simp [Except.mapError]
  | ok b => simp [Except.mapError]

/-- **A redirect is followed within the limit only.** -/
theorem exchange_redirect {net : Internet} {settings : Settings} {headers : ConditionalHeaders}
    {followed : Nat} {url next : Str}
    (h : exchange net settings headers followed url = .ok (.redirect next)) :
    followed < settings.fetchMaxRedirects.toNat := by
  have hrun := mapError_ok.mp h
  unfold withStream at hrun
  split at hrun
  · cases hrun
  · unfold handleResponse at hrun
    split at hrun
    -- the limit is tested before the Location is joined
    · split at hrun
      · cases hrun
      · omega
    · -- a body that is read ends the loop
      next response _ _ _ =>
        cases hbody : readBody settings.fetchMaxResponseBytes [] response.chunks
            response.interrupted with
        | error e => simp [hbody, bind, Except.bind] at hrun
        | ok content => simp [hbody, bind, Except.bind, pure, Except.pure] at hrun

/-! ## §5. The loop. -/

/-- A request that left the process. -/
structure Get where
  hop : Nat
  url : Str
  headers : ConditionalHeaders
  deriving Repr, DecidableEq

/-- The `while` loop: the GETs it sends, and how it ends. -/
def fetchLoop (P : Platform) (net : Internet) (settings : Settings)
    (headers : ConditionalHeaders) (followed : Nat) (url : Str) :
    List Get × Fetching FetchResult :=
  match validatePublicUrl P net followed url with
  | .error e => ([], .error e)
  | .ok () =>
      let get : Get := { hop := followed, url := url, headers := headers }
      match _h : exchange net settings headers followed url with
      | .error e => ([get], .error e)
      | .ok (.done result) => ([get], .ok result)
      | .ok (.redirect next) =>
          -- `continue`: the next hop is validated before it is requested
          let rest := fetchLoop P net settings headers (followed + 1) next
          (get :: rest.1, rest.2)
termination_by settings.fetchMaxRedirects.toNat - followed
decreasing_by
  have := exchange_redirect _h
  omega

section Loop

variable {P : Platform} {net : Internet} {settings : Settings} {headers : ConditionalHeaders}
  {followed : Nat} {url : Str}

theorem fetchLoop_of_invalid {e : FetchRaise}
    (hvalid : validatePublicUrl P net followed url = .error e) :
    fetchLoop P net settings headers followed url = ([], .error e) := by
  rw [fetchLoop, hvalid]

theorem fetchLoop_of_raise {e : FetchRaise} (hvalid : validatePublicUrl P net followed url = .ok ())
    (h : exchange net settings headers followed url = .error e) :
    fetchLoop P net settings headers followed url
      = ([{ hop := followed, url := url, headers := headers }], .error e) := by
  rw [fetchLoop, hvalid]
  simp only
  split <;> simp_all

theorem fetchLoop_of_done {result : FetchResult}
    (hvalid : validatePublicUrl P net followed url = .ok ())
    (h : exchange net settings headers followed url = .ok (.done result)) :
    fetchLoop P net settings headers followed url
      = ([{ hop := followed, url := url, headers := headers }], .ok result) := by
  rw [fetchLoop, hvalid]
  simp only
  split <;> simp_all

theorem fetchLoop_of_redirect {next : Str}
    (hvalid : validatePublicUrl P net followed url = .ok ())
    (h : exchange net settings headers followed url = .ok (.redirect next)) :
    fetchLoop P net settings headers followed url
      = ({ hop := followed, url := url, headers := headers }
          :: (fetchLoop P net settings headers (followed + 1) next).1,
        (fetchLoop P net settings headers (followed + 1) next).2) := by
  rw [fetchLoop, hvalid]
  simp only
  split <;> simp_all

end Loop

/-- No `conditional_headers`. -/
def noConditions : ConditionalHeaders := { ifNoneMatch := none, ifModifiedSince := none }

/-- `fetch_url_async`. -/
def fetchUrlAsync (P : Platform) (net : Internet) (settings : Settings) (url : Str)
    (headers : ConditionalHeaders) : List Get × Fetching FetchResult :=
  fetchLoop P net settings headers 0 url

/-- `fetch_url`, as `check_source` calls it. -/
def fetchUrl (P : Platform) (net : Internet) (settings : Settings) (url : Str) :
    List Get × Fetching FetchResult :=
  fetchUrlAsync P net settings url noConditions

end Feedcast
