import IpCountryApi.Domain.AddressText

/-! The is_* predicates of ipaddress: membership in the network lists of CPython
3.12, where an IPv4-mapped IPv6 address is judged by its IPv4 part. -/
namespace IpCountryApi.Domain

/-- A network address and its prefix length. -/
structure Network where
  address : Nat
  prefixlen : Nat

def Network.contains (width : Nat) (net : Network) (ip : Nat) : Bool :=
  ip / 2 ^ (width - net.prefixlen) == net.address / 2 ^ (width - net.prefixlen)

/-- A dotted quad as an integer. -/
def quad (a b c d : Nat) : Nat := ((a * 256 + b) * 256 + c) * 256 + d

namespace IPv4Address

def linklocalNetwork : Network := ⟨quad 169 254 0 0, 16⟩
def loopbackNetwork : Network := ⟨quad 127 0 0 0, 8⟩
def multicastNetwork : Network := ⟨quad 224 0 0 0, 4⟩
def publicNetwork : Network := ⟨quad 100 64 0 0, 10⟩
def reservedNetwork : Network := ⟨quad 240 0 0 0, 4⟩

def privateNetworks : List Network :=
  [⟨quad 0 0 0 0, 8⟩, ⟨quad 10 0 0 0, 8⟩, ⟨quad 127 0 0 0, 8⟩, ⟨quad 169 254 0 0, 16⟩,
   ⟨quad 172 16 0 0, 12⟩, ⟨quad 192 0 0 0, 24⟩, ⟨quad 192 0 0 170, 31⟩, ⟨quad 192 0 2 0, 24⟩,
   ⟨quad 192 168 0 0, 16⟩, ⟨quad 198 18 0 0, 15⟩, ⟨quad 198 51 100 0, 24⟩, ⟨quad 203 0 113 0, 24⟩,
   ⟨quad 240 0 0 0, 4⟩, ⟨quad 255 255 255 255, 32⟩]

def privateNetworksExceptions : List Network := [⟨quad 192 0 0 9, 32⟩, ⟨quad 192 0 0 10, 32⟩]

/-- Python's "self in network". -/
def mem (a : IPv4Address) (net : Network) : Bool := net.contains 32 a.ip

def isReserved (a : IPv4Address) : Bool := a.mem reservedNetwork
def isPrivate (a : IPv4Address) : Bool :=
  privateNetworks.any a.mem && privateNetworksExceptions.all (!a.mem ·)
def isGlobal (a : IPv4Address) : Bool := !a.mem publicNetwork && !a.isPrivate
def isMulticast (a : IPv4Address) : Bool := a.mem multicastNetwork
def isUnspecified (a : IPv4Address) : Bool := a.ip == 0
def isLoopback (a : IPv4Address) : Bool := a.mem loopbackNetwork
def isLinkLocal (a : IPv4Address) : Bool := a.mem linklocalNetwork

end IPv4Address

namespace IPv6Address

/-- A network whose address is written by its highest three hextets. -/
def network (a b c : Nat) (prefixlen : Nat) : Network :=
  ⟨((a * 65536 + b) * 65536 + c) * 2 ^ 80, prefixlen⟩

def linklocalNetwork : Network := network 0xfe80 0 0 10
def multicastNetwork : Network := network 0xff00 0 0 8
def sitelocalNetwork : Network := network 0xfec0 0 0 10

def privateNetworks : List Network :=
  [⟨1, 128⟩, ⟨0, 128⟩, ⟨0xffff * 2 ^ 32, 96⟩, network 0x64 0xff9b 1 48, network 0x100 0 0 64,
   network 0x2001 0 0 23, network 0x2001 0xdb8 0 32, network 0x2002 0 0 16, network 0x3fff 0 0 20,
   network 0xfc00 0 0 7, network 0xfe80 0 0 10]

def privateNetworksExceptions : List Network :=
  [⟨0x20010001 * 2 ^ 96 + 1, 128⟩, ⟨0x20010001 * 2 ^ 96 + 2, 128⟩, network 0x2001 3 0 32,
   network 0x2001 4 0x112 48, network 0x2001 0x20 0 28, network 0x2001 0x30 0 28]

def reservedNetworks : List Network :=
  [network 0 0 0 8, network 0x100 0 0 8, network 0x200 0 0 7, network 0x400 0 0 6, network 0x800 0 0 5,
   network 0x1000 0 0 4, network 0x4000 0 0 3, network 0x6000 0 0 3, network 0x8000 0 0 3,
   network 0xa000 0 0 3, network 0xc000 0 0 3, network 0xe000 0 0 4, network 0xf000 0 0 5,
   network 0xf800 0 0 6, network 0xfe00 0 0 9]

def mem (a : IPv6Address) (net : Network) : Bool := net.contains 128 a.ip

def ipv4Mapped (a : IPv6Address) : Option IPv4Address :=
  if a.ip.val / 2 ^ 32 = 0xffff then some ⟨⟨a.ip.val % 2 ^ 32, Nat.mod_lt _ (by decide)⟩⟩ else none

/-- A predicate that asks the mapped IPv4 address first. -/
def judged (mapped : IPv4Address → Bool) (own : Bool) (a : IPv6Address) : Bool :=
  match a.ipv4Mapped with
  | some m => mapped m
  | none => own

def isMulticast (a : IPv6Address) : Bool := a.judged IPv4Address.isMulticast (a.mem multicastNetwork)
def isReserved (a : IPv6Address) : Bool := a.judged IPv4Address.isReserved (reservedNetworks.any a.mem)
def isLinkLocal (a : IPv6Address) : Bool := a.judged IPv4Address.isLinkLocal (a.mem linklocalNetwork)
def isSiteLocal (a : IPv6Address) : Bool := a.mem sitelocalNetwork
def isPrivate (a : IPv6Address) : Bool :=
  a.judged IPv4Address.isPrivate (privateNetworks.any a.mem && privateNetworksExceptions.all (!a.mem ·))
def isGlobal (a : IPv6Address) : Bool := a.judged IPv4Address.isGlobal (!a.isPrivate)
def isUnspecified (a : IPv6Address) : Bool := a.judged IPv4Address.isUnspecified (a.ip == 0)
def isLoopback (a : IPv6Address) : Bool := a.judged IPv4Address.isLoopback (a.ip == 1)

end IPv6Address

namespace IPAddress

/-- A property both families have under the same name. -/
def select (p4 : IPv4Address → Bool) (p6 : IPv6Address → Bool) : IPAddress → Bool
  | .v4 a => p4 a
  | .v6 a => p6 a

def isGlobal : IPAddress → Bool := select IPv4Address.isGlobal IPv6Address.isGlobal
def isPrivate : IPAddress → Bool := select IPv4Address.isPrivate IPv6Address.isPrivate
def isLoopback : IPAddress → Bool := select IPv4Address.isLoopback IPv6Address.isLoopback
def isLinkLocal : IPAddress → Bool := select IPv4Address.isLinkLocal IPv6Address.isLinkLocal
def isMulticast : IPAddress → Bool := select IPv4Address.isMulticast IPv6Address.isMulticast
def isUnspecified : IPAddress → Bool := select IPv4Address.isUnspecified IPv6Address.isUnspecified
def isReserved : IPAddress → Bool := select IPv4Address.isReserved IPv6Address.isReserved

end IPAddress
end IpCountryApi.Domain
