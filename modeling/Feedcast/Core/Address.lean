/-
  Feedcast.Core.Address — the part of `ipaddress` the address policy relies on.

  An address is its integer.  The six flags `_reject_non_public` reads are the
  ones `IPv4Address` and `IPv6Address` compute from the special-purpose
  registries; an IPv4-mapped IPv6 address has the flags of the address it maps.
-/
import Feedcast.Core.Platform

namespace Feedcast

/-! ## §1. Networks. -/

inductive IPAddress where
  | v4 (ip : BitVec 32)
  | v6 (ip : BitVec 128)
  deriving Repr, DecidableEq

/-- `IPv4Network` and `IPv6Network`. -/
structure IPNetwork (w : Nat) where
  address : BitVec w
  prefixlen : Nat
  deriving DecidableEq

/-- `address in network`. -/
def IPNetwork.contains {w : Nat} (network : IPNetwork w) (ip : BitVec w) : Bool :=
  ip >>> (w - network.prefixlen) == network.address >>> (w - network.prefixlen)

/-- `a.b.c.d`. -/
def ipv4 (a b c d : BitVec 8) : BitVec 32 := a ++ b ++ c ++ d

/-- The address of eight hextets. -/
def ipv6 (a b c d e f g h : BitVec 16) : BitVec 128 := a ++ b ++ c ++ d ++ e ++ f ++ g ++ h

/-! ## §2. The registries. -/

/-- `_IPv4Constants._private_networks`. -/
def ipv4PrivateNetworks : List (IPNetwork 32) :=
  [⟨ipv4 0 0 0 0, 8⟩, ⟨ipv4 10 0 0 0, 8⟩, ⟨ipv4 127 0 0 0, 8⟩, ⟨ipv4 169 254 0 0, 16⟩,
    ⟨ipv4 172 16 0 0, 12⟩, ⟨ipv4 192 0 0 0, 24⟩, ⟨ipv4 192 0 0 170, 31⟩, ⟨ipv4 192 0 2 0, 24⟩,
    ⟨ipv4 192 168 0 0, 16⟩, ⟨ipv4 198 18 0 0, 15⟩, ⟨ipv4 198 51 100 0, 24⟩,
    ⟨ipv4 203 0 113 0, 24⟩, ⟨ipv4 240 0 0 0, 4⟩, ⟨ipv4 255 255 255 255, 32⟩]

/-- `_IPv4Constants._private_networks_exceptions`. -/
def ipv4PrivateExceptions : List (IPNetwork 32) :=
  [⟨ipv4 192 0 0 9, 32⟩, ⟨ipv4 192 0 0 10, 32⟩]

/-- `_IPv6Constants._private_networks`. -/
def ipv6PrivateNetworks : List (IPNetwork 128) :=
  [⟨ipv6 0 0 0 0 0 0 0 1, 128⟩, ⟨ipv6 0 0 0 0 0 0 0 0, 128⟩,
    ⟨ipv6 0 0 0 0 0 0xffff 0 0, 96⟩, ⟨ipv6 0x64 0xff9b 1 0 0 0 0 0, 48⟩,
    ⟨ipv6 0x100 0 0 0 0 0 0 0, 64⟩, ⟨ipv6 0x2001 0 0 0 0 0 0 0, 23⟩,
    ⟨ipv6 0x2001 0xdb8 0 0 0 0 0 0, 32⟩, ⟨ipv6 0x2002 0 0 0 0 0 0 0, 16⟩,
    ⟨ipv6 0x3fff 0 0 0 0 0 0 0, 20⟩, ⟨ipv6 0xfc00 0 0 0 0 0 0 0, 7⟩,
    ⟨ipv6 0xfe80 0 0 0 0 0 0 0, 10⟩]

/-- `_IPv6Constants._private_networks_exceptions`. -/
def ipv6PrivateExceptions : List (IPNetwork 128) :=
  [⟨ipv6 0x2001 1 0 0 0 0 0 1, 128⟩, ⟨ipv6 0x2001 1 0 0 0 0 0 2, 128⟩,
    ⟨ipv6 0x2001 3 0 0 0 0 0 0, 32⟩, ⟨ipv6 0x2001 4 0x112 0 0 0 0 0, 48⟩,
    ⟨ipv6 0x2001 0x20 0 0 0 0 0 0, 28⟩, ⟨ipv6 0x2001 0x30 0 0 0 0 0 0, 28⟩]

/-- `_IPv6Constants._reserved_networks`. -/
def ipv6ReservedNetworks : List (IPNetwork 128) :=
  [⟨ipv6 0 0 0 0 0 0 0 0, 8⟩, ⟨ipv6 0x100 0 0 0 0 0 0 0, 8⟩, ⟨ipv6 0x200 0 0 0 0 0 0 0, 7⟩,
    ⟨ipv6 0x400 0 0 0 0 0 0 0, 6⟩, ⟨ipv6 0x800 0 0 0 0 0 0 0, 5⟩,
    ⟨ipv6 0x1000 0 0 0 0 0 0 0, 4⟩, ⟨ipv6 0x4000 0 0 0 0 0 0 0, 3⟩,
    ⟨ipv6 0x6000 0 0 0 0 0 0 0, 3⟩, ⟨ipv6 0x8000 0 0 0 0 0 0 0, 3⟩,
    ⟨ipv6 0xa000 0 0 0 0 0 0 0, 3⟩, ⟨ipv6 0xc000 0 0 0 0 0 0 0, 3⟩,
    ⟨ipv6 0xe000 0 0 0 0 0 0 0, 4⟩, ⟨ipv6 0xf000 0 0 0 0 0 0 0, 5⟩,
    ⟨ipv6 0xf800 0 0 0 0 0 0 0, 6⟩, ⟨ipv6 0xfe00 0 0 0 0 0 0 0, 9⟩]

/-! ## §3. The flags. -/

/-- `ipv4_mapped`. -/
def ipv4Mapped (ip : BitVec 128) : Option (BitVec 32) :=
  if ip >>> 32 = 0xffff then some (ip.setWidth 32) else none

/-- A flag, given on either kind of address. -/
def IPAddress.flag (onV4 : BitVec 32 → Bool) (onV6 : BitVec 128 → Bool) : IPAddress → Bool
  | .v4 ip => onV4 ip
  | .v6 ip => ((ipv4Mapped ip).map onV4).getD (onV6 ip)

/-- In one of the networks, and in no exception. -/
def inNetworks {w : Nat} (networks exceptions : List (IPNetwork w)) (ip : BitVec w) : Bool :=
  networks.any (·.contains ip) && exceptions.all (!·.contains ip)

/-- `is_private`; 100.64.0.0/10 is neither private nor global. -/
def IPAddress.isPrivate : IPAddress → Bool :=
  flag (inNetworks ipv4PrivateNetworks ipv4PrivateExceptions)
    (inNetworks ipv6PrivateNetworks ipv6PrivateExceptions)

/-- `is_loopback`. -/
def IPAddress.isLoopback : IPAddress → Bool :=
  flag (IPNetwork.contains ⟨ipv4 127 0 0 0, 8⟩) (· == 1)

/-- `is_link_local`. -/
def IPAddress.isLinkLocal : IPAddress → Bool :=
  flag (IPNetwork.contains ⟨ipv4 169 254 0 0, 16⟩)
    (IPNetwork.contains ⟨ipv6 0xfe80 0 0 0 0 0 0 0, 10⟩)

/-- `is_reserved`. -/
def IPAddress.isReserved : IPAddress → Bool :=
  flag (IPNetwork.contains ⟨ipv4 240 0 0 0, 4⟩) (inNetworks ipv6ReservedNetworks [])

/-- `is_multicast`. -/
def IPAddress.isMulticast : IPAddress → Bool :=
  flag (IPNetwork.contains ⟨ipv4 224 0 0 0, 4⟩)
    (IPNetwork.contains ⟨ipv6 0xff00 0 0 0 0 0 0 0, 8⟩)

/-- `is_unspecified`. -/
def IPAddress.isUnspecified : IPAddress → Bool := flag (· == 0) (· == 0)

/-! ## §4. Printing. -/

/-- `a.b.c.d` in decimal. -/
def ipv4Text (ip : BitVec 32) : Str :=
  ".".toList.intercalate
    ([24, 16, 8, 0].map fun shift => (toString ((ip >>> shift).toNat % 256)).toList)

/-- Where the longest run of zero hextets starts, and how long it is; of equal
runs the first. -/
def longestZeros : List Nat → Nat × Nat
  | [] => (0, 0)
  | hextet :: rest =>
      let here := ((hextet :: rest).takeWhile (· = 0)).length
      let (start, length) := longestZeros rest
      if length ≤ here then (0, here) else (start + 1, length)

/-- `str(ip)` of an IPv6 address: `::` stands for the longest run of zeros. -/
def ipv6Text (ip : BitVec 128) : Str :=
  match ipv4Mapped ip with
  | some mapped => "::ffff:".toList ++ ipv4Text mapped
  | none =>
      let hextets := [112, 96, 80, 64, 48, 32, 16, 0].map fun shift =>
        (ip >>> shift).toNat % 65536
      let text := fun (part : List Nat) =>
        ":".toList.intercalate (part.map fun hextet => Nat.toDigits 16 hextet)
      let (start, length) := longestZeros hextets
      if length ≤ 1 then text hextets
      else text (hextets.take start) ++ "::".toList ++ text (hextets.drop (start + length))

/-- `str(ip)`. -/
def IPAddress.text : IPAddress → Str
  | .v4 ip => ipv4Text ip
  | .v6 ip => ipv6Text ip

example : (IPAddress.v6 (ipv6 0x2001 0xdb8 0 0 0 1 0 0)).text = "2001:db8::1:0:0".toList := by
  decide +kernel

end Feedcast
