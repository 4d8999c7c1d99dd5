/-
  Feedcast.Fetch.Failures — how a fetch fails, and what `check_source` makes of it.

  Two clauses turn library exceptions into `FetchError`s: a `gaierror` of the
  resolver and an `HTTPError` of httpx.  `urlparse`, the resolver and httpx can
  raise more than that, at the first hop or at a later one:

    • `hopHandled_iff` — what one hop lets escape,
    • `fetchLoop_settled` — a fetch settles exactly if every hop it comes to is
      handled,
    • `fetch_settles_iff` — and so does `check_source`.
-/
import Feedcast.Core.Hashing
import Feedcast.Fetch.Hops
import Feedcast.Schemas.City
import Feedcast.Services.Sources
import Mathlib.Logic.Relation

namespace Feedcast

/-! ## §1. Settled outcomes. -/

/-- A result, or a `FetchError`. -/
def Settled {α : Type} (outcome : Fetching α) : Prop := ∀ e, outcome ≠ .error (.uncaught e)

theorem settled_ok {α : Type} (a : α) : Settled (.ok a : Fetching α) := by
  intro e h
  cases h

theorem settled_fetchError {α : Type} (e : FetchError) :
    Settled (.error (.fetchError e) : Fetching α) := by
  intro e h
  cases h

theorem settled_error {α β : Type} {raised : FetchRaise} :
    Settled (.error raised : Fetching α) ↔ Settled (.error raised : Fetching β) := by
  cases raised with
  | fetchError e => exact iff_of_true (settled_fetchError e) (settled_fetchError e)
  | uncaught e => exact iff_of_false (fun h => h e rfl) (fun h => h e rfl)

theorem not_settled_uncaught {α : Type} (e : Exc) :
    ¬ Settled (.error (.uncaught e) : Fetching α) := fun h => h e rfl

/-- `except httpx.HTTPError` lets everything else through. -/
theorem settled_transported {α : Type} {outcome : Fetching α} :
    Settled (outcome.mapError FetchRaise.transported) ↔
      ∀ e, outcome = .error (.uncaught e) → ∃ text, e = .httpError text := by
  cases outcome with
  | ok a => exact iff_of_true (settled_ok a) (by simp)
  | error raised =>
      cases raised with
      | fetchError e => exact iff_of_true (settled_fetchError e) (by simp)
      -- only the transport's own error is turned into a refusal
      | uncaught e =>
          cases e with
          | httpError text =>
              exact iff_of_true (settled_fetchError _) (by simp)
          | _ text => exact iff_of_false (not_settled_uncaught _) (by simp)

/-! ## §2. One hop. -/

section Hop

variable {P : Platform} {net : Internet} {settings : Settings} {headers : ConditionalHeaders}

/-- **What the handlers are for, and nothing else, is raised at a hop.** -/
structure HopHandled (P : Platform) (net : Internet) (settings : Settings)
    (headers : ConditionalHeaders) (hop : Nat) (url : Str) : Prop where
  parses : ∀ e, urlsplit P url ≠ .error e
  resolves : ∀ hostname e, parseTarget P url = .ok hostname →
    net.resolve hop hostname = .error e → ∃ text, e = .gaierror text
  sends : (Get.mk hop url headers).Validated P net →
    ∀ e, net.send hop url headers = .error e → ∃ text, e = .httpError text
  joins : (Get.mk hop url headers).Validated P net →
    ∀ response location e, net.send hop url headers = .ok response →
      response.redirectLocation = some location →
      ((hop + 1 : Nat) : Int) ≤ settings.fetchMaxRedirects →
      net.join response.url location = .error e → ∃ text, e = .httpError text
  reads : (Get.mk hop url headers).Validated P net →
    ∀ response e, net.send hop url headers = .ok response → response.redirectLocation = none →
      (response.chunks = []
        ∨ (response.chunks.flatten.length : Int) ≤ settings.fetchMaxResponseBytes) →
      response.interrupted = some e → ∃ text, e = .httpError text

/-- Validation escapes through `urlparse` and through the resolver. -/
theorem validatePublicUrl_settled {hop : Nat} {url : Str} :
    Settled (validatePublicUrl P net hop url) ↔
      (∀ e, urlsplit P url ≠ .error e)
        ∧ ∀ hostname e, parseTarget P url = .ok hostname →
            net.resolve hop hostname = .error e → ∃ text, e = .gaierror text := by
  unfold validatePublicUrl
  cases hsplit : urlsplit P url with
  | error e =>
      have htarget : parseTarget P url = .error (.uncaught (.valueError e)) := by
        unfold parseTarget
        rw [hsplit]
      rw [htarget]
      exact iff_of_false (not_settled_uncaught _) (fun h => h.1 e rfl)
  | ok parts =>
      cases htarget : parseTarget P url with
      | error raised =>
          -- a URL that splits is refused for its scheme or its hostname
          have hfetch : ∃ e, raised = .fetchError e := by
            unfold parseTarget at htarget
            rw [hsplit] at htarget
            simp only at htarget
            split at htarget
            · exact ⟨_, (Except.error.inj htarget).symm⟩
            · split at htarget
              · exact ⟨_, (Except.error.inj htarget).symm⟩
              · cases htarget
          obtain ⟨e, rfl⟩ := hfetch
          exact iff_of_true (settled_fetchError e) (by simp)
      | ok hostname =>
          simp only [bind, Except.bind]
          cases hresolve : net.resolve hop hostname with
          | ok addrInfos =>
              have hsettled : Settled ((rejectNonPublic P hostname addrInfos).mapError
                  FetchRaise.fetchError) := by
                cases rejectNonPublic P hostname addrInfos with
                | ok _ => exact settled_ok _
                | error e => exact settled_fetchError e
              refine iff_of_true hsettled ⟨by simp, ?_⟩
              intro hostname' e h herror
              cases h
              rw [hresolve] at herror
              cases herror
          | error raised =>
              cases raised with
              | gaierror text =>
                  refine iff_of_true (settled_fetchError _) ⟨by simp, ?_⟩
                  intro hostname' e h herror
                  cases h
                  rw [hresolve] at herror
                  exact ⟨text, (Except.error.inj herror).symm⟩
              | _ text =>
                  refine iff_of_false (not_settled_uncaught _) ?_
                  intro h
                  obtain ⟨text', hgai⟩ := h.2 hostname _ rfl hresolve
                  cases hgai

/-- Reading a body escapes through what interrupts it before the cap does. -/
theorem readBody_uncaught {limit : Int} {content : List UInt8} {chunks : List (List UInt8)}
    {interrupted : Option Exc} {e : Exc} :
    readBody limit content chunks interrupted = .error (.uncaught e) ↔
      interrupted = some e
        ∧ (chunks = [] ∨ ((content.length + chunks.flatten.length : Nat) : Int) ≤ limit) := by
  induction chunks generalizing content with
  | nil =>
      cases interrupted with
      | none => simp [readBody]
      | some e' => simp [readBody]
  | cons chunk rest ih =>
      rw [readBody]
      -- the cap is asked of what has arrived so far, chunk by chunk
      have hlength : content.length + (chunk :: rest).flatten.length
          = (content ++ chunk).length + rest.flatten.length := by
        simp [Nat.add_assoc]
      rw [hlength]
      split
      · -- the cap is passed here, and the rest can only add to it
        next hover =>
          refine iff_of_false (by simp [tooLarge]) ?_
          intro h
          rcases h.2 with h | h
          · cases h
          · omega
      · next hunder =>
          rw [ih]
          have hnil : rest = [] → (((content ++ chunk).length + rest.flatten.length : Nat) : Int)
              ≤ limit := by
            intro h
            subst h
            simpa using not_lt.mp hunder
          constructor
          · intro h
            exact ⟨h.1, Or.inr (h.2.elim hnil id)⟩
          · intro h
            exact ⟨h.1, Or.inr (h.2.resolve_left (by simp))⟩

theorem handleResponse_redirect {hop : Nat} {response : Response} {location : Str} {e : Exc}
    (hlocation : response.redirectLocation = some location) :
    handleResponse net settings hop response = .error (.uncaught e) ↔
      ((hop + 1 : Nat) : Int) ≤ settings.fetchMaxRedirects
        ∧ net.join response.url location = .error e := by
  unfold handleResponse
  rw [hlocation]
  simp only
  split
  -- over the limit the answer is a refusal, and the join is never tried
  · next hover =>
      exact iff_of_false (by simp [unsafeUrl]) (fun h => absurd h.1 (by omega))
  · next hunder =>
      cases net.join response.url location with
      | error e' => simpa using fun _ => not_lt.mp hunder
      | ok url => simp

theorem handleResponse_body {hop : Nat} {response : Response} {e : Exc}
    (hlocation : response.redirectLocation = none) :
    handleResponse net settings hop response = .error (.uncaught e) ↔
      response.interrupted = some e
        ∧ (response.chunks = []
          ∨ (response.chunks.flatten.length : Int) ≤ settings.fetchMaxResponseBytes) := by
  -- without a redirect the only thing that can raise is the reading
  have hread : handleResponse net settings hop response = .error (.uncaught e) ↔
      readBody settings.fetchMaxResponseBytes [] response.chunks response.interrupted
        = .error (.uncaught e) := by
    unfold handleResponse
    rw [hlocation]
    cases readBody settings.fetchMaxResponseBytes [] response.chunks response.interrupted with
    | error raised => simp [bind, Except.bind]
    | ok content => simp [bind, Except.bind, pure, Except.pure]
  rw [hread, readBody_uncaught, List.length_nil, Nat.zero_add]

/-- The `try` block escapes through what httpx raises besides an `HTTPError`. -/
theorem exchange_settled {hop : Nat} {url : Str} :
    Settled (exchange net settings headers hop url) ↔
      (∀ e, net.send hop url headers = .error e → ∃ text, e = .httpError text)
        ∧ (∀ response location e, net.send hop url headers = .ok response →
            response.redirectLocation = some location →
            ((hop + 1 : Nat) : Int) ≤ settings.fetchMaxRedirects →
            net.join response.url location = .error e → ∃ text, e = .httpError text)
        ∧ ∀ response e, net.send hop url headers = .ok response →
            response.redirectLocation = none →
            (response.chunks = []
              ∨ (response.chunks.flatten.length : Int) ≤ settings.fetchMaxResponseBytes) →
            response.interrupted = some e → ∃ text, e = .httpError text := by
  unfold exchange
  rw [settled_transported]
  unfold withStream
  cases hsend : net.send hop url headers with
  | error e => simp
  | ok response =>
      simp only
      constructor
      · intro h
        refine ⟨by simp, ?_, ?_⟩
        · intro response' location e hresponse hlocation hlimit hjoin
          cases hresponse
          exact h e ((handleResponse_redirect hlocation).mpr ⟨hlimit, hjoin⟩)
        · intro response' e hresponse hlocation hbody hinterrupted
          cases hresponse
          exact h e ((handleResponse_body hlocation).mpr ⟨hinterrupted, hbody⟩)
      · intro h e hraised
        obtain ⟨-, hjoins, hreads⟩ := h
        -- a redirect can only fail at its join, anything else only while it is read
        cases hlocation : response.redirectLocation with
        | some location =>
            obtain ⟨hlimit, hjoin⟩ := (handleResponse_redirect hlocation).mp hraised
            exact hjoins response location e rfl hlocation hlimit hjoin
        | none =>
            obtain ⟨hinterrupted, hbody⟩ := (handleResponse_body hlocation).mp hraised
            exact hreads response e rfl hlocation hbody hinterrupted

/-- **One hop**: it is handled exactly if neither of its two parts escapes. -/
theorem hopHandled_iff {hop : Nat} {url : Str} :
    HopHandled P net settings headers hop url ↔
      Settled (validatePublicUrl P net hop url)
        ∧ ((Get.mk hop url headers).Validated P net →
          Settled (exchange net settings headers hop url)) := by
  rw [validatePublicUrl_settled, exchange_settled]
  -- the first two clauses are the check, the other three the exchange
  constructor
  · intro h
    exact ⟨⟨h.parses, h.resolves⟩, fun hv => ⟨h.sends hv, h.joins hv, h.reads hv⟩⟩
  · intro h
    obtain ⟨⟨hparses, hresolves⟩, hexchange⟩ := h
    exact ⟨hparses, hresolves, fun hv => (hexchange hv).1, fun hv => (hexchange hv).2.1,
      fun hv => (hexchange hv).2.2⟩

/-! ## §3. The hops of a fetch. -/

/-- **The fetch goes from one hop to the next**: the first is requested, and
answers with a redirect within the limit. -/
def Follows (P : Platform) (net : Internet) (settings : Settings) (headers : ConditionalHeaders)
    (here next : Nat × Str) : Prop :=
  (Get.mk here.1 here.2 headers).Validated P net
    ∧ ∃ response location,
        net.send here.1 here.2 headers = .ok response
          ∧ response.redirectLocation = some location
          ∧ ((here.1 + 1 : Nat) : Int) ≤ settings.fetchMaxRedirects
          ∧ net.join response.url location = .ok next.2
          ∧ next.1 = here.1 + 1

/-- The hops a fetch comes to. -/
def Reaches (P : Platform) (net : Internet) (settings : Settings) (headers : ConditionalHeaders) :
    Nat × Str → Nat × Str → Prop :=
  Relation.ReflTransGen (Follows P net settings headers)

theorem exchange_redirect_iff {hop : Nat} {url next : Str} :
    exchange net settings headers hop url = .ok (.redirect next) ↔
      ∃ response location,
        net.send hop url headers = .ok response
          ∧ response.redirectLocation = some location
          ∧ ((hop + 1 : Nat) : Int) ≤ settings.fetchMaxRedirects
          ∧ net.join response.url location = .ok next := by
  unfold exchange
  rw [mapError_ok]
  unfold withStream
  cases hsend : net.send hop url headers with
  | error e => simp
  | ok response =>
      simp only [Except.ok.injEq, exists_and_left, ↓existsAndEq, true_and]
      unfold handleResponse
      -- without a Location the body is read, and no hop follows
      cases hlocation : response.redirectLocation with
      | none =>
          cases readBody settings.fetchMaxResponseBytes [] response.chunks
              response.interrupted with
          | error raised => simp [bind, Except.bind]
          | ok content => simp [bind, Except.bind, pure, Except.pure]
      | some location =>
          simp only [Option.some.injEq, ↓existsAndEq, true_and]
          split
          · next hover => exact iff_of_false (by simp) (fun h => absurd h.1 (by omega))
          · next hunder =>
              cases net.join response.url location with
              | error e => simp
              | ok url' => simpa using fun _ => not_lt.mp hunder

/-- The fetch goes on exactly where the loop does. -/
theorem follows_iff {hop : Nat} {url : Str} {next : Nat × Str} :
    Follows P net settings headers (hop, url) next ↔
      validatePublicUrl P net hop url = .ok ()
        ∧ exchange net settings headers hop url = .ok (.redirect next.2)
        ∧ next.1 = hop + 1 := by
  rw [exchange_redirect_iff, @validatePublicUrl_ok P net hop url headers]
  constructor
  · intro h
    obtain ⟨hvalid, response, location, hsend, hlocation, hlimit, hjoin, hhop⟩ := h
    exact ⟨hvalid, ⟨response, location, hsend, hlocation, hlimit, hjoin⟩, hhop⟩
  · intro h
    obtain ⟨hvalid, ⟨response, location, hsend, hlocation, hlimit, hjoin⟩, hhop⟩ := h
    exact ⟨hvalid, response, location, hsend, hlocation, hlimit, hjoin, hhop⟩

/-- From a hop that is the last, only that hop is to be handled. -/
theorem reaches_last {here : Nat × Str}
    (hlast : ∀ next, ¬ Follows P net settings headers here next) :
    (∀ hop, Reaches P net settings headers here hop →
        HopHandled P net settings headers hop.1 hop.2) ↔
      HopHandled P net settings headers here.1 here.2 := by
  constructor
  · intro h
    exact h here Relation.ReflTransGen.refl
  · intro h hop hreach
    rcases Relation.ReflTransGen.cases_head_iff.mp hreach with rfl | ⟨next, hnext, -⟩
    · exact h
    · exact absurd hnext (hlast next)

/-- **A fetch settles exactly if every hop it comes to is handled.** -/
theorem fetchLoop_settled (followed : Nat) (url : Str) :
    Settled (fetchLoop P net settings headers followed url).2 ↔
      ∀ hop, Reaches P net settings headers (followed, url) hop →
        HopHandled P net settings headers hop.1 hop.2 := by
  induction followed, url using fetchLoop.induct P net settings headers with
  -- the URL is refused before anything is sent
  | case1 followed url e hinvalid =>
      have hlast : ∀ next, ¬ Follows P net settings headers (followed, url) next := by
        intro next hnext
        have hvalid := (follows_iff.mp hnext).1
        rw [hinvalid] at hvalid
        cases hvalid
      have hrefused : ¬ (Get.mk followed url headers).Validated P net := by
        intro hvalid
        rw [← validatePublicUrl_ok, hinvalid] at hvalid
        cases hvalid
      rw [fetchLoop_of_invalid hinvalid, reaches_last hlast, hopHandled_iff, hinvalid]
      exact ⟨fun h => ⟨settled_error.mp h, fun hv => absurd hv hrefused⟩,
        fun h => settled_error.mp h.1⟩
  | case2 followed url hvalid e hraise =>
      have hlast : ∀ next, ¬ Follows P net settings headers (followed, url) next := by
        intro next hnext
        have hredirect := (follows_iff.mp hnext).2.1
        rw [hraise] at hredirect
        cases hredirect
      rw [fetchLoop_of_raise hvalid hraise, reaches_last hlast, hopHandled_iff, hvalid, hraise]
      exact ⟨fun h => ⟨settled_ok (), fun _ => settled_error.mp h⟩,
        fun h => settled_error.mp (h.2 (validatePublicUrl_ok.mp hvalid))⟩
  | case3 followed url hvalid result hdone =>
      have hlast : ∀ next, ¬ Follows P net settings headers (followed, url) next := by
        intro next hnext
        have hredirect := (follows_iff.mp hnext).2.1
        rw [hdone] at hredirect
        cases hredirect
      rw [fetchLoop_of_done hvalid hdone, reaches_last hlast, hopHandled_iff, hvalid, hdone]
      exact iff_of_true (settled_ok result) ⟨settled_ok (), fun _ => settled_ok _⟩
  | case4 followed url hvalid next hredirect ih =>
      rw [fetchLoop_of_redirect hvalid hredirect, ih]
      constructor
      · intro h hop hreach
        rcases Relation.ReflTransGen.cases_head_iff.mp hreach with rfl | ⟨mid, hmid, hrest⟩
        · -- this hop: validated, and answered
          rw [hopHandled_iff, hvalid, hredirect]
          exact ⟨settled_ok (), fun _ => settled_ok _⟩
        · obtain ⟨-, hsame, hhop⟩ := follows_iff.mp hmid
          rw [hredirect] at hsame
          -- the hop that follows this one is the redirect it was answered with
          have hmid' : mid = (followed + 1, next) :=
            Prod.ext hhop (Hop.redirect.inj (Except.ok.inj hsame)).symm
          exact h hop (hmid' ▸ hrest)
      · intro h hop hreach
        exact h hop (Relation.ReflTransGen.head
          (follows_iff.mpr ⟨hvalid, hredirect, rfl⟩) hreach)

end Hop

/-! ## §4. The check. -/

/-- What a check writes to the row is what it answers. -/
inductive SourceCheckResult.RecordedAs (answer : SourceCheckResult) (source : Source)
    (now : Time) : Source → Prop
  | passed : answer.ok = true → RecordedAs answer source now (source.checkPassed now)
  | failed (error : Str) : answer.ok = false → answer.error = some error →
      RecordedAs answer source now (source.checkFailed error now)

/-- **A check that answers**: a `SourceCheckResult`, recorded on the row. -/
def CheckAnswers (P : Platform) (net : Internet) (settings : Settings) (db : Db)
    (source : Source) (now : Time) : Prop :=
  ∃ answer checked,
    checkSource P net settings db source.id now = .ok (db.putSource checked, answer)
      ∧ answer.RecordedAs source now checked

/-- A check answers exactly if its fetch settles: the parser raises nothing. -/
theorem checkAnswers_iff {P : Platform} (hparse : ∀ body, ∃ parsed, P.feedparse body = .ok parsed)
    {net : Internet} {settings : Settings} {db : Db} {source : Source}
    (hsource : db.getSource source.id = some source) {now : Time} :
    CheckAnswers P net settings db source now ↔
      Settled (fetchUrl P net settings source.feedUrl).2 := by
  cases hfetch : (fetchUrl P net settings source.feedUrl).2 with
  | error raised =>
      cases raised with
      | fetchError e =>
          exact iff_of_true
            ⟨{ ok := false, error := some e.text }, _, checkSource_refused hsource hfetch,
              .failed e.text rfl rfl⟩
            (settled_fetchError e)
      | uncaught e =>
          refine iff_of_false ?_ (not_settled_uncaught e)
          intro h
          obtain ⟨answer, checked, hcheck, -⟩ := h
          rw [checkSource_escaped hsource hfetch] at hcheck
          cases hcheck
  | ok result =>
      refine iff_of_true ?_ (settled_ok result)
      obtain ⟨parsed, hparsed⟩ := hparse result.content
      -- feedparser answers for every body, so that a fetch that came back is judged
      by_cases hempty : parsed.bozo ∧ parsed.entries = []
      · exact ⟨_, _, checkSource_fetched hsource hfetch (checkResponse_failed hparsed hempty),
          .failed ("response did not parse as a feed: ".toList ++ parsed.bozoException) rfl rfl⟩
      · exact ⟨_, _, checkSource_fetched hsource hfetch (checkResponse_passed hparsed hempty),
          .passed rfl⟩

/-- **A FAILED FETCH IS A `FetchError`, EXACTLY WHEN**: no hop it comes to lets
anything else escape.  The same holds of a check, which fetches the feed of
its source with no conditions. -/
theorem fetch_settles_iff (P : Platform) (hparse : ∀ body, ∃ parsed, P.feedparse body = .ok parsed)
    (net : Internet) (settings : Settings) :
    (∀ url headers, Settled (fetchUrlAsync P net settings url headers).2 ↔
        ∀ hop, Reaches P net settings headers (0, url) hop →
          HopHandled P net settings headers hop.1 hop.2)
      ∧ ∀ db source now, db.getSource source.id = some source →
          (CheckAnswers P net settings db source now ↔
            ∀ hop, Reaches P net settings noConditions (0, source.feedUrl) hop →
              HopHandled P net settings noConditions hop.1 hop.2) := by
  constructor
  · intro url headers
    exact fetchLoop_settled 0 url
  · intro db source now hsource
    rw [checkAnswers_iff hparse hsource]
    -- a source check fetches without validators
    exact fetchLoop_settled 0 source.feedUrl

/-- A source whose URL has an unbalanced bracket in its authority. -/
def bracketSource : Source := { testTimes.row 1 1 with feedUrl := "http://[".toList }

def bracketDb : Db where
  sources := [bracketSource]

/-- A network on which every host resolves, and answers. -/
def everyHost : Internet where
  resolve _ _ := .ok [.v4 (ipv4 93 184 216 34)]
  send _ url _ := .ok { url := url, statusCode := 200 }
  join _ location := .ok location

/-- **AN UNBALANCED BRACKET ESCAPES**: `urlparse` raises a `ValueError`, which
leaves the fetch and the check. -/
theorem bracketSource_escapes :
    ¬ Settled (fetchUrlAsync plainPages everyHost defaultSettings bracketSource.feedUrl
        noConditions).2
      ∧ ¬ CheckAnswers plainPages everyHost defaultSettings bracketDb bracketSource 0 := by
  -- the bracket is never closed, so the URL does not even parse
  have hraised : (fetchUrl plainPages everyHost defaultSettings bracketSource.feedUrl).2
      = .error (.uncaught (.valueError "Invalid IPv6 URL".toList)) := by
    unfold fetchUrl fetchUrlAsync
    rw [fetchLoop_of_invalid rfl]
  constructor
  · show ¬ Settled (fetchUrl plainPages everyHost defaultSettings bracketSource.feedUrl).2
    rw [hraised]
    exact not_settled_uncaught _
  · rw [checkAnswers_iff (fun _ => ⟨_, rfl⟩) rfl, hraised]
    exact not_settled_uncaught _

def plainDb : Db where
  sources := [testTimes.row 1 1]

/-- An ordinary feed on that network settles at its first hop. -/
theorem plainSource_settles :
    Settled (fetchUrl plainPages everyHost defaultSettings testTimes.feedUrl).2 := by
  have hvalid : validatePublicUrl plainPages everyHost 0 testTimes.feedUrl = .ok () := by
    decide +kernel
  have hanswer : exchange everyHost defaultSettings noConditions 0 testTimes.feedUrl
      = .ok (.done
          { statusCode := 200, headers := {}, content := [], finalUrl := testTimes.feedUrl }) := by
    rfl
  unfold fetchUrl fetchUrlAsync
  rw [fetchLoop_of_done hvalid hanswer]
  exact settled_ok _

/-- The ordinary feed meets the condition and its check answers; the bracket does
neither. -/
theorem fetch_settles_iff_bothSources :
    ((∀ hop, Reaches plainPages everyHost defaultSettings noConditions (0, testTimes.feedUrl) hop →
          HopHandled plainPages everyHost defaultSettings noConditions hop.1 hop.2)
        ∧ CheckAnswers plainPages everyHost defaultSettings plainDb (testTimes.row 1 1) 0)
      ∧ ¬ ∀ hop, Reaches plainPages everyHost defaultSettings noConditions
            (0, bracketSource.feedUrl) hop →
          HopHandled plainPages everyHost defaultSettings noConditions hop.1 hop.2 := by
  have hiff := fetch_settles_iff plainPages (fun _ => ⟨_, rfl⟩) everyHost defaultSettings
  have hhandled := (hiff.1 testTimes.feedUrl noConditions).mp plainSource_settles
  refine ⟨⟨hhandled, (hiff.2 plainDb (testTimes.row 1 1) 0 rfl).mpr hhandled⟩, ?_⟩
  intro hbracket
  -- were its hops handled, the fetch would settle, and it does not
  have hsettled := (hiff.1 bracketSource.feedUrl noConditions).mpr hbracket
  unfold fetchUrlAsync at hsettled
  rw [fetchLoop_of_invalid rfl] at hsettled
  exact not_settled_uncaught _ hsettled

end Feedcast
