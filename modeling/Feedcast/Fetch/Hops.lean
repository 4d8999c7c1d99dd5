/-
  Feedcast.Fetch.Hops — what leaves the process, and how much comes back.

  The redirect loop sends a GET only after the URL of that hop has passed
  validation, stops at the redirect limit, and hands on a body only while it
  is within the byte cap:

    • `validatePublicUrl_ok` — what validation has established,
    • `readBody_length` — the cap holds of every body that is returned,
    • `fetch_validated_and_bounded` — the three facts of a whole fetch.
-/
import Feedcast.Core.Net

namespace Feedcast

/-! ## §1. Validation. -/

/-- **A request the policy has passed**: at its hop the URL had an allowed
scheme and a hostname, and every address the hostname then resolved to was
public. -/
def Get.Validated (P : Platform) (net : Internet) (get : Get) : Prop :=
  ∃ parts hostname addrInfos,
    urlsplit P get.url = .ok parts
      ∧ parts.scheme ∈ allowedSchemes
      ∧ truthy (parts.hostname P) = some hostname
      ∧ net.resolve get.hop hostname = .ok addrInfos
      ∧ rejectNonPublic P hostname addrInfos = .ok ()

theorem parseTarget_ok {P : Platform} {url hostname : Str} :
    parseTarget P url = .ok hostname ↔
      ∃ parts, urlsplit P url = .ok parts ∧ parts.scheme ∈ allowedSchemes
        ∧ truthy (parts.hostname P) = some hostname := by
  unfold parseTarget
  cases urlsplit P url with
  | error e => simp
  | ok parts =>
      -- the scheme is looked at before the host
      by_cases hscheme : parts.scheme ∈ allowedSchemes
      · cases htruthy : truthy (parts.hostname P) with
        | none => simp [hscheme, htruthy]
        | some h => simp [hscheme, htruthy]
      · simp [hscheme]

/-- The addresses pass exactly if none of them is caught. -/
theorem rejectNonPublic_ok {P : Platform} {hostname : Str} {addrInfos : List IPAddress} :
    rejectNonPublic P hostname addrInfos = .ok () ↔ ∀ ip ∈ addrInfos, ip.nonPublic = false := by
  induction addrInfos with
  | nil => simp [rejectNonPublic]
  | cons ip rest ih =>
      rw [rejectNonPublic, List.forall_mem_cons, ← ih]
      cases ip.nonPublic with
      | true => simp
      | false => simp

/-- An address that is caught is reported as an `UnsafeUrlError`, and as nothing else. -/
theorem rejectNonPublic_error {P : Platform} {hostname : Str} {addrInfos : List IPAddress} :
    (∃ text, rejectNonPublic P hostname addrInfos = .error (.unsafeUrl text)) ↔
      ∃ ip ∈ addrInfos, ip.nonPublic = true := by
  induction addrInfos with
  | nil => simp [rejectNonPublic]
  | cons ip rest ih =>
      rw [rejectNonPublic, List.exists_mem_cons_iff, ← ih]
      cases ip.nonPublic with
      | true => simp
      | false => simp

theorem validatePublicUrl_ok {P : Platform} {net : Internet} {hop : Nat} {url : Str}
    {headers : ConditionalHeaders} :
    validatePublicUrl P net hop url = .ok () ↔
      (Get.mk hop url headers).Validated P net := by
  -- the three steps in a row: parse, resolve, look at every address
  have hsplit : validatePublicUrl P net hop url = .ok () ↔
      ∃ hostname addrInfos, parseTarget P url = .ok hostname
        ∧ net.resolve hop hostname = .ok addrInfos
        ∧ rejectNonPublic P hostname addrInfos = .ok () := by
    unfold validatePublicUrl
    cases parseTarget P url with
    | error e => simp [bind, Except.bind]
    | ok hostname =>
        cases hresolve : net.resolve hop hostname with
        | error e =>
            cases e with
            | _ text => simp [bind, Except.bind, hresolve, throw, throwThe, MonadExceptOf.throw]
        | ok addrInfos => simp [bind, Except.bind, hresolve, mapError_ok]
  rw [hsplit]
  constructor
  · intro h
    obtain ⟨hostname, addrInfos, htarget, hresolve, hpublic⟩ := h
    obtain ⟨parts, hurl, hscheme, hhost⟩ := parseTarget_ok.mp htarget
    exact ⟨parts, hostname, addrInfos, hurl, hscheme, hhost, hresolve, hpublic⟩
  · intro h
    obtain ⟨parts, hostname, addrInfos, hurl, hscheme, hhost, hresolve, hpublic⟩ := h
    exact ⟨hostname, addrInfos, parseTarget_ok.mpr ⟨parts, hurl, hscheme, hhost⟩, hresolve,
      hpublic⟩

/-! ## §2. The byte cap. -/

/-- **A body that is returned is within the cap.**  What was read before counts. -/
theorem readBody_length {limit : Int} {content body : List UInt8} {chunks : List (List UInt8)}
    {interrupted : Option Exc} (hcontent : content.length ≤ limit.toNat)
    (h : readBody limit content chunks interrupted = .ok body) : body.length ≤ limit.toNat := by
  induction chunks generalizing content with
  | nil =>
      cases interrupted with
      | none =>
          cases h
          exact hcontent
      | some e => cases h
  | cons chunk rest ih =>
      rw [readBody] at h
      -- the size is checked after every chunk
      split at h
      · cases h
      · exact ih (by omega) h

theorem handleResponse_length {net : Internet} {settings : Settings} {followed : Nat}
    {response : Response} {result : FetchResult}
    (h : handleResponse net settings followed response = .ok (.done result)) :
    result.content.length ≤ settings.fetchMaxResponseBytes.toNat := by
  unfold handleResponse at h
  split at h
  · -- a redirect has no result
    split at h
    · cases h
    · split at h <;> cases h
  · cases hbody : readBody settings.fetchMaxResponseBytes [] response.chunks
        response.interrupted with
    | error e => simp [hbody, bind, Except.bind] at h
    | ok content =>
        simp only [hbody, bind, Except.bind, pure, Except.pure, Except.ok.injEq,
          Hop.done.injEq] at h
        rw [← h]
        -- it starts from nothing, and stops when the cap is passed
        exact readBody_length (by simp) hbody

theorem exchange_length {net : Internet} {settings : Settings} {headers : ConditionalHeaders}
    {followed : Nat} {url : Str} {result : FetchResult}
    (h : exchange net settings headers followed url = .ok (.done result)) :
    result.content.length ≤ settings.fetchMaxResponseBytes.toNat := by
  have hrun := mapError_ok.mp h
  unfold withStream at hrun
  split at hrun
  · cases hrun
  · exact handleResponse_length hrun

/-! ## §3. The loop. -/

section Loop

variable {P : Platform} {net : Internet} {settings : Settings} {headers : ConditionalHeaders}

/-- The GETs of a loop that has followed some redirects: validated, one a hop,
and no more than the limit leaves. -/
theorem fetchLoop_gets (followed : Nat) (url : Str) :
    (∀ get ∈ (fetchLoop P net settings headers followed url).1, get.Validated P net)
      ∧ (fetchLoop P net settings headers followed url).1.map (·.hop)
        = List.range' followed (fetchLoop P net settings headers followed url).1.length
      ∧ (fetchLoop P net settings headers followed url).1.length
        ≤ settings.fetchMaxRedirects.toNat - followed + 1 := by
  induction followed, url using fetchLoop.induct P net settings headers with
  -- nothing is sent to a URL that was refused
  | case1 followed url e hinvalid =>
      rw [fetchLoop_of_invalid hinvalid]
      simp
  | case2 followed url hvalid e hraise =>
      rw [fetchLoop_of_raise hvalid hraise]
      exact ⟨by simpa using validatePublicUrl_ok.mp hvalid, rfl, by simp⟩
  | case3 followed url hvalid result hdone =>
      rw [fetchLoop_of_done hvalid hdone]
      exact ⟨by simpa using validatePublicUrl_ok.mp hvalid, rfl, by simp⟩
  | case4 followed url hvalid next hredirect ih =>
      rw [fetchLoop_of_redirect hvalid hredirect]
      obtain ⟨hvalidated, hhops, hlength⟩ := ih
      refine ⟨List.forall_mem_cons.mpr ⟨validatePublicUrl_ok.mp hvalid, hvalidated⟩, ?_, ?_⟩
      · rw [List.map_cons, List.length_cons, List.range'_succ, hhops]
      · -- the redirect was within the limit, so one more GET was left for it
        have hlimit := exchange_redirect hredirect
        rw [List.length_cons]
        omega

/-- What the loop returns is within the byte cap. -/
theorem fetchLoop_length (followed : Nat) (url : Str) {result : FetchResult}
    (h : (fetchLoop P net settings headers followed url).2 = .ok result) :
    result.content.length ≤ settings.fetchMaxResponseBytes.toNat := by
  induction followed, url using fetchLoop.induct P net settings headers with
  | case1 followed url e hinvalid =>
      rw [fetchLoop_of_invalid hinvalid] at h
      cases h
  | case2 followed url hvalid e hraise =>
      rw [fetchLoop_of_raise hvalid hraise] at h
      cases h
  | case3 followed url hvalid done hdone =>
      rw [fetchLoop_of_done hvalid hdone] at h
      cases h
      exact exchange_length hdone
  -- only the last hop has a result
  | case4 followed url hvalid next hredirect ih =>
      rw [fetchLoop_of_redirect hvalid hredirect] at h
      exact ih h

end Loop

/-- **EVERY REQUEST IS VALIDATED, AND EVERY FETCH IS BOUNDED.**  The fetch
sends its GETs one a hop, each to a URL that passed the policy at that hop; at
most `fetch_max_redirects + 1` of them; and content only within
`fetch_max_response_bytes`.  A negative setting allows what zero does. -/
theorem fetch_validated_and_bounded (P : Platform) (net : Internet) (settings : Settings)
    (url : Str) (headers : ConditionalHeaders) :
    (∀ get ∈ (fetchUrlAsync P net settings url headers).1, get.Validated P net)
      ∧ (fetchUrlAsync P net settings url headers).1.map (·.hop)
        = List.range (fetchUrlAsync P net settings url headers).1.length
      ∧ (fetchUrlAsync P net settings url headers).1.length
        ≤ settings.fetchMaxRedirects.toNat + 1
      ∧ ∀ result, (fetchUrlAsync P net settings url headers).2 = .ok result →
          result.content.length ≤ settings.fetchMaxResponseBytes.toNat := by
  -- the loop's own law, started at the first hop
  obtain ⟨hvalidated, hhops, hlength⟩ :=
    @fetchLoop_gets P net settings headers 0 url
  exact ⟨hvalidated, by rw [List.range_eq_range']; exact hhops, hlength,
    fun result h => fetchLoop_length 0 url h⟩

end Feedcast
