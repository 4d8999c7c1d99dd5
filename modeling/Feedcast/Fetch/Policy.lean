/-
  Feedcast.Fetch.Policy — which addresses the policy keeps out.

  The policy is a union of six flags; the special-purpose registry is a list
  of blocks.  They part at one block, the shared address space, which
  `ipaddress` calls neither private nor global:

    • `forbidden_nonPublic` — every other block is caught,
    • `only_public_reachable_iff` — hence when a list of addresses is refused,
    • `sharedAddress_reached` — an address of the shared space that is fetched.
-/
import Feedcast.Core.Hashing
import Feedcast.Fetch.Hops

namespace Feedcast

/-! ## §1. The registry. -/

/-- 100.64.0.0/10, the shared address space of carrier-grade NAT. -/
def sharedSpace : IPNetwork 32 := ⟨ipv4 100 64 0 0, 10⟩

/-- The IPv4 blocks of the special-purpose registry that are not globally reachable. -/
def notGloballyReachable : List (IPNetwork 32) :=
  [⟨ipv4 0 0 0 0, 8⟩, ⟨ipv4 10 0 0 0, 8⟩, sharedSpace, ⟨ipv4 127 0 0 0, 8⟩,
    ⟨ipv4 169 254 0 0, 16⟩, ⟨ipv4 172 16 0 0, 12⟩, ⟨ipv4 192 0 0 0, 24⟩, ⟨ipv4 192 0 2 0, 24⟩,
    ⟨ipv4 192 168 0 0, 16⟩, ⟨ipv4 198 18 0 0, 15⟩, ⟨ipv4 198 51 100 0, 24⟩,
    ⟨ipv4 203 0 113 0, 24⟩, ⟨ipv4 240 0 0 0, 4⟩]

/-- 192.0.0.9 and 192.0.0.10, which are. -/
def globallyReachable : List (IPNetwork 32) := [⟨ipv4 192 0 0 9, 32⟩, ⟨ipv4 192 0 0 10, 32⟩]

/-- An IPv4 address that is not globally reachable, or a multicast address. -/
def IPAddress.forbidden (ip : IPAddress) : Bool :=
  (match ip with
    | .v4 ip => inNetworks notGloballyReachable globallyReachable ip
    | .v6 _ => false) || ip.isMulticast

/-- An IPv4 address of the shared space. -/
def IPAddress.shared : IPAddress → Bool
  | .v4 ip => sharedSpace.contains ip
  | .v6 _ => false

theorem mem_inNetworks {w : Nat} {networks exceptions : List (IPNetwork w)} {ip : BitVec w} :
    inNetworks networks exceptions ip = true ↔
      (∃ network ∈ networks, network.contains ip = true)
        ∧ ∀ network ∈ exceptions, network.contains ip = false := by
  simp [inNetworks, List.any_eq_true, List.all_eq_true]

/-- **The six flags catch every block but the shared one.** -/
theorem forbidden_nonPublic {ip : IPAddress} (h : ip.forbidden = true) :
    ip.nonPublic = true ∨ ip.shared = true := by
  unfold IPAddress.forbidden at h
  rcases Bool.or_eq_true_iff.mp h with hblock | hmulticast
  · cases ip with
    | v4 ip =>
        obtain ⟨⟨network, hnetwork, hcontains⟩, hexceptions⟩ := mem_inNetworks.mp hblock
        -- one block of the registry is missing from `is_private`: the shared space
        have hblocks : ∀ network ∈ notGloballyReachable,
            network ∈ ipv4PrivateNetworks ∨ network = sharedSpace := by decide
        rcases hblocks network hnetwork with hprivate | rfl
        · left
          have hip : (IPAddress.v4 ip).isPrivate = true :=
            mem_inNetworks.mpr ⟨⟨network, hprivate, hcontains⟩, hexceptions⟩
          simp [IPAddress.nonPublic, hip]
        · right
          exact hcontains
    | v6 ip => cases hblock
  · left
    simp [IPAddress.nonPublic, hmulticast]

/-- A network of full prefix length holds its own address only. -/
theorem contains_full {w : Nat} {address ip : BitVec w}
    (h : (IPNetwork.mk address w).contains ip = true) : ip = address := by
  simpa [IPNetwork.contains] using h

theorem shared_forbidden {ip : IPAddress} (h : ip.shared = true) : ip.forbidden = true := by
  cases ip with
  | v4 ip =>
      -- the two exceptions are outside the space
      have hout : ∀ network ∈ globallyReachable, network.contains ip = false := by
        intro network hnetwork
        by_contra hcontains
        rw [Bool.not_eq_false] at hcontains
        have hend : network.prefixlen = 32 ∧ sharedSpace.contains network.address = false :=
          (by decide : ∀ n ∈ globallyReachable,
            n.prefixlen = 32 ∧ sharedSpace.contains n.address = false) network hnetwork
        obtain ⟨hfull, hoff⟩ := hend
        cases network with
        | mk address prefixlen =>
            subst hfull
            rw [← contains_full hcontains] at hoff
            exact absurd (show sharedSpace.contains ip = true from h) (by simp [hoff])
      have hblock : inNetworks notGloballyReachable globallyReachable ip = true :=
        mem_inNetworks.mpr ⟨⟨sharedSpace, by decide, h⟩, hout⟩
      simp [IPAddress.forbidden, hblock]
  | v6 ip => cases h

/-! ## §2. The policy on a list of addresses. -/

/-- **What refusing a host means**: its addresses raise an `UnsafeUrlError`,
and no fetch sends a GET at a hop where the host resolved to them. -/
structure HostRefused (P : Platform) (hostname : Str) (addrInfos : List IPAddress) : Prop where
  raises : ∃ text, rejectNonPublic P hostname addrInfos = .error (.unsafeUrl text)
  unsent : ∀ (net : Internet) (settings : Settings) (url : Str) (headers : ConditionalHeaders),
    ∀ get ∈ (fetchUrlAsync P net settings url headers).1,
      parseTarget P get.url = .ok hostname → net.resolve get.hop hostname ≠ .ok addrInfos

/-- Whatever raises is not requested. -/
theorem hostRefused_iff {P : Platform} {hostname : Str} {addrInfos : List IPAddress} :
    HostRefused P hostname addrInfos ↔ ∃ ip ∈ addrInfos, ip.nonPublic = true := by
  constructor
  · intro h
    exact rejectNonPublic_error.mp h.raises
  · intro h
    refine { raises := rejectNonPublic_error.mpr h, unsent := ?_ }
    intro net settings url headers get hget htarget hresolve
    obtain ⟨hvalidated, -⟩ := fetch_validated_and_bounded P net settings url headers
    obtain ⟨parts, hostname', addrInfos', hurl, hscheme, hhost, hresolve', hpublic⟩ :=
      hvalidated get hget
    -- the hop validated the same host and the same addresses
    have hsame : hostname' = hostname := by
      have htarget' := parseTarget_ok.mpr ⟨parts, hurl, hscheme, hhost⟩
      rw [htarget] at htarget'
      exact (Except.ok.inj htarget').symm
    rw [hsame] at hresolve' hpublic
    rw [hresolve] at hresolve'
    cases hresolve'
    obtain ⟨ip, hip, hcaught⟩ := h
    rw [rejectNonPublic_ok.mp hpublic ip hip] at hcaught
    cases hcaught

/-- **ONLY PUBLIC ADDRESSES, EXACTLY WHEN**: a list that holds a forbidden
address is refused if and only if it holds none of the shared space, or an
address one of the six flags catches besides. -/
theorem only_public_reachable_iff (P : Platform) (hostname : Str) (addrInfos : List IPAddress) :
    ((∃ ip ∈ addrInfos, ip.forbidden = true) → HostRefused P hostname addrInfos) ↔
      ((∃ ip ∈ addrInfos, ip.shared = true) → ∃ ip ∈ addrInfos, ip.nonPublic = true) := by
  rw [hostRefused_iff]
  -- every forbidden kind but the shared one is caught by the six flags
  constructor
  · intro h hshared
    obtain ⟨ip, hip, hshared⟩ := hshared
    exact h ⟨ip, hip, shared_forbidden hshared⟩
  · intro h hforbidden
    obtain ⟨ip, hip, hforbidden⟩ := hforbidden
    rcases forbidden_nonPublic hforbidden with hcaught | hshared
    · exact ⟨ip, hip, hcaught⟩
    · exact h ⟨ip, hip, hshared⟩

/-- A host that resolves to an address of the shared space, and answers. -/
def behindNat : Internet where
  resolve _ _ := .ok [.v4 (ipv4 100 64 0 1)]
  send _ url _ := .ok { url := url, statusCode := 200 }
  join _ location := .ok location

/-- **A CARRIER-GRADE NAT ADDRESS IS REACHED**: it is forbidden, the policy
lets it pass, and the GET is sent. -/
theorem sharedAddress_reached :
    ¬ ((∃ ip ∈ [IPAddress.v4 (ipv4 100 64 0 1)], ip.forbidden = true) →
        HostRefused feedless "example.test".toList [.v4 (ipv4 100 64 0 1)])
      ∧ (fetchUrl feedless behindNat defaultSettings "http://example.test/feed".toList).1
        = [{ hop := 0, url := "http://example.test/feed".toList, headers := noConditions }] := by
  constructor
  · rw [hostRefused_iff]
    decide
  · unfold fetchUrl fetchUrlAsync
    rw [fetchLoop_of_done (by decide) rfl]

end Feedcast
