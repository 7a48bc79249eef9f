import IpCountryApi.Domain.IpValidation

/-! Which addresses the validation lets through, told by comparing networks with networks. -/
namespace IpCountryApi.Domain

namespace Network
variable {width ip : Nat} {a b : Network}

/-- Inside a network all addresses agree on every shorter prefix. -/
theorem contains_eq (hp : a.prefixlen ≤ b.prefixlen) (hb : b.contains width ip = true) :
    a.contains width ip = a.contains width b.address := by
  have hsplit : 2 ^ (width - a.prefixlen) =
      2 ^ (width - b.prefixlen) * 2 ^ ((width - a.prefixlen) - (width - b.prefixlen)) := by
    rw [← Nat.pow_add]
    congr 1
    omega
  have hsame : ip / 2 ^ (width - b.prefixlen) = b.address / 2 ^ (width - b.prefixlen) := by
    simpa [contains] using hb
  have hcoarse : ip / 2 ^ (width - a.prefixlen) = b.address / 2 ^ (width - a.prefixlen) := by
    rw [hsplit, ← Nat.div_div_eq_div_mul, hsame, Nat.div_div_eq_div_mul]
  rw [contains, contains, hcoarse]

/-- Every address of the first network is one of the second. -/
def subnetOf (width : Nat) (a b : Network) : Bool := b.prefixlen ≤ a.prefixlen && b.contains width a.address

theorem contains_of_subnetOf (h : a.subnetOf width b = true) (ha : a.contains width ip = true) :
    b.contains width ip = true := by
  obtain ⟨hp, hb⟩ := (Bool.and_eq_true _ _).mp h
  exact (contains_eq (of_decide_eq_true hp) ha).trans hb

def overlaps (width : Nat) (a b : Network) : Bool :=
  if a.prefixlen ≤ b.prefixlen then a.contains width b.address else b.contains width a.address

theorem not_contains_of_apart (h : a.overlaps width b = false) (ha : a.contains width ip = true) :
    b.contains width ip = false := by
  rw [Bool.eq_false_iff]
  intro hb
  rw [overlaps] at h
  split at h
  · rename_i hp
    exact Bool.noConfusion (h.symm.trans ((contains_eq hp hb).symm.trans ha))
  · rename_i hp
    exact Bool.noConfusion (h.symm.trans ((contains_eq (Nat.le_of_not_le hp) ha).symm.trans hb))

/-- A network within a listed one and away from all exceptions of the list. -/
def listed (width : Nat) (networks exceptions : List Network) (b : Network) : Bool :=
  networks.any (b.subnetOf width) && exceptions.all (!b.overlaps width ·)

theorem contains_of_listed {networks exceptions : List Network} (h : b.listed width networks exceptions = true)
    (hb : b.contains width ip = true) :
    (networks.any (·.contains width ip) && exceptions.all (!·.contains width ip)) = true := by
  obtain ⟨hin, hout⟩ := (Bool.and_eq_true _ _).mp h
  rw [Bool.and_eq_true, List.any_eq_true, List.all_eq_true]
  constructor
  · obtain ⟨net, hnet, hsub⟩ := List.any_eq_true.mp hin
    exact ⟨net, hnet, contains_of_subnetOf hsub hb⟩
  · intro net hnet
    have hapart := List.all_eq_true.mp hout net hnet
    rw [not_contains_of_apart (by simpa using hapart) hb]
    rfl

/-- No address of a network is in any network it does not overlap. -/
theorem not_any_contains {networks : List Network} (h : networks.all (!b.overlaps width ·) = true)
    (hb : b.contains width ip = true) : networks.any (·.contains width ip) = false := by
  rw [List.any_eq_false]
  intro net hnet
  have hapart := List.all_eq_true.mp h net hnet
  rw [not_contains_of_apart (by simpa using hapart) hb]
  exact Bool.false_ne_true

end Network

/-- The blocks of the IPv4 space that are not routed globally. -/
def nonRoutable4 : List Network :=
  [⟨quad 0 0 0 0, 8⟩, ⟨quad 10 0 0 0, 8⟩, ⟨quad 100 64 0 0, 10⟩, ⟨quad 127 0 0 0, 8⟩, ⟨quad 169 254 0 0, 16⟩,
   ⟨quad 172 16 0 0, 12⟩, ⟨quad 192 0 2 0, 24⟩, ⟨quad 192 168 0 0, 16⟩, ⟨quad 198 18 0 0, 15⟩,
   ⟨quad 198 51 100 0, 24⟩, ⟨quad 203 0 113 0, 24⟩, ⟨quad 224 0 0 0, 4⟩, ⟨quad 240 0 0 0, 4⟩]

/-- The IPv6 blocks: unspecified, loopback, documentation, unique local, link local, site
local, multicast. -/
def nonRoutable6 : List Network :=
  [⟨0, 128⟩, ⟨1, 128⟩, IPv6Address.network 0x2001 0xdb8 0 32, IPv6Address.network 0xfc00 0 0 7,
   IPv6Address.network 0xfe80 0 0 10, IPv6Address.network 0xfec0 0 0 10, IPv6Address.network 0xff00 0 0 8]

def IPAddress.nonRoutable : IPAddress → Bool
  | .v4 a => nonRoutable4.any a.mem
  | .v6 a => nonRoutable6.any a.mem || a.ipv4Mapped.any fun m => nonRoutable4.any m.mem

/-- The condition of the validation's second error. -/
def IPAddress.refused (address : IPAddress) : Bool :=
  !address.isGlobal || address.isPrivate || address.isLoopback || address.isLinkLocal ||
    address.isMulticast || address.isUnspecified || address.isReserved

theorem validatePublicIp_ok_iff {value : String} {a : IPAddress} :
    validatePublicIp value = .ok a ↔ ipAddress (strip value.toList) = some a ∧ a.refused = false := by
  rw [validatePublicIp]
  cases ipAddress (strip value.toList) with
  | none => simp
  | some b =>
    dsimp only
    rw [← IPAddress.refused]
    cases h : b.refused with
    | false =>
      rw [if_neg Bool.false_ne_true]
      constructor
      · rintro ⟨⟩
        exact ⟨rfl, h⟩
      · rintro ⟨⟨⟩, _⟩
        rfl
    | true =>
      rw [if_pos rfl]
      constructor
      · rintro ⟨⟩
      · rintro ⟨⟨⟩, hb⟩
        exact Bool.noConfusion (h.symm.trans hb)

/-- How the validation refuses an IPv4 block. -/
def covered4 (b : Network) : Bool :=
  b.listed 32 IPv4Address.privateNetworks IPv4Address.privateNetworksExceptions ||
    b.subnetOf 32 IPv4Address.publicNetwork || b.subnetOf 32 IPv4Address.multicastNetwork ||
    b.subnetOf 32 IPv4Address.reservedNetwork

theorem nonRoutable4_covered : ∀ b ∈ nonRoutable4, covered4 b = true := by decide

/-- An address of such a block is private, shared, multicast or reserved. -/
theorem IPv4Address.nonRoutable_cases {a : IPv4Address} (h : nonRoutable4.any a.mem = true) :
    a.isPrivate = true ∨ a.isGlobal = false ∨ a.isMulticast = true ∨ a.isReserved = true := by
  obtain ⟨b, hb, hmem⟩ := List.any_eq_true.mp h
  have hcovered := nonRoutable4_covered b hb
  rw [covered4, Bool.or_eq_true, Bool.or_eq_true, Bool.or_eq_true] at hcovered
  rcases hcovered with ((hprivate | hpublic) | hmulticast) | hreserved
  · exact .inl (Network.contains_of_listed hprivate hmem)
  · refine .inr (.inl ?_)
    have hshared : a.mem publicNetwork = true := Network.contains_of_subnetOf hpublic hmem
    rw [isGlobal, hshared]
    rfl
  · exact .inr (.inr (.inl (Network.contains_of_subnetOf hmulticast hmem)))
  · exact .inr (.inr (.inr (Network.contains_of_subnetOf hreserved hmem)))

/-- The IPv4-mapped addresses. -/
def mappedNetwork : Network := ⟨0xffff * 2 ^ 32, 96⟩

theorem IPv6Address.mapped_of_ipv4Mapped {a : IPv6Address} {m : IPv4Address} (h : a.ipv4Mapped = some m) :
    a.mem mappedNetwork = true := by
  rw [ipv4Mapped] at h
  split at h
  · rename_i hip
    simpa [mem, Network.contains, mappedNetwork] using hip
  · cases h

/-- An address of a block apart from the mapped ones is judged by itself. -/
theorem IPv6Address.ipv4Mapped_none {a : IPv6Address} {b : Network} (hb : b.overlaps 128 mappedNetwork = false)
    (hmem : a.mem b = true) : a.ipv4Mapped = none := by
  cases hm : a.ipv4Mapped with
  | none => rfl
  | some m => exact Bool.noConfusion ((mapped_of_ipv4Mapped hm).symm.trans (Network.not_contains_of_apart hb hmem))

/-- How the validation refuses an IPv6 block. -/
def covered6 (b : Network) : Bool :=
  b.listed 128 IPv6Address.privateNetworks IPv6Address.privateNetworksExceptions ||
    b.subnetOf 128 IPv6Address.multicastNetwork

/-- Every block is refused but one. -/
theorem nonRoutable6_covered : ∀ b ∈ nonRoutable6, b.overlaps 128 mappedNetwork = false ∧
    (covered6 b = true ∨ b.subnetOf 128 IPv6Address.sitelocalNetwork = true) := by decide

/-- An address that is not routed globally is refused unless it is site local. -/
theorem IPAddress.refused_of_nonRoutable {a : IPAddress} (h : a.nonRoutable = true) :
    a.refused = true ∨ ∃ a6, a = .v6 a6 ∧ a6.isSiteLocal = true := by
  cases a with
  | v4 a =>
    refine .inl ?_
    rcases IPv4Address.nonRoutable_cases h with hcase | hcase | hcase | hcase <;>
      simp [refused, isPrivate, isGlobal, isMulticast, isReserved, select, hcase]
  | v6 a =>
    rw [nonRoutable, Bool.or_eq_true] at h
    rcases h with h | h
    · obtain ⟨b, hb, hmem⟩ := List.any_eq_true.mp h
      obtain ⟨hmapped, hcovered | hsite⟩ := nonRoutable6_covered b hb
      · refine .inl ?_
        have hnone := IPv6Address.ipv4Mapped_none hmapped hmem
        rw [covered6, Bool.or_eq_true] at hcovered
        rcases hcovered with hprivate | hmulticast
        · have hcase : a.isPrivate = true := by
            rw [IPv6Address.isPrivate, IPv6Address.judged, hnone]
            exact Network.contains_of_listed hprivate hmem
          simp [refused, isPrivate, select, hcase]
        · have hcase : a.isMulticast = true := by
            rw [IPv6Address.isMulticast, IPv6Address.judged, hnone]
            exact Network.contains_of_subnetOf hmulticast hmem
          simp [refused, isMulticast, select, hcase]
      · exact .inr ⟨a, rfl, Network.contains_of_subnetOf hsite hmem⟩
    · obtain ⟨m, hm, hmem⟩ := (Option.any_eq_true _ _).mp h
      refine .inl ?_
      rcases IPv4Address.nonRoutable_cases hmem with hcase | hcase | hcase | hcase <;>
        simp [refused, isPrivate, isGlobal, isMulticast, isReserved, select, IPv6Address.isPrivate,
          IPv6Address.isGlobal, IPv6Address.isMulticast, IPv6Address.isReserved, IPv6Address.judged, hm, hcase]

/-- The networks that a site local address would have to be in to be refused. -/
theorem sitelocal_apart : IPv6Address.sitelocalNetwork.overlaps 128 mappedNetwork = false ∧
    (⟨0, 128⟩ :: ⟨1, 128⟩ :: IPv6Address.linklocalNetwork :: IPv6Address.multicastNetwork ::
      (IPv6Address.privateNetworks ++ IPv6Address.reservedNetworks)).all
        (!IPv6Address.sitelocalNetwork.overlaps 128 ·) = true := by decide

/-- No predicate that the validation asks tells a site local address. -/
theorem IPv6Address.siteLocal_not_refused {a : IPv6Address} (h : a.isSiteLocal = true) :
    IPAddress.refused (.v6 a) = false := by
  obtain ⟨hmapped, hapart⟩ := sitelocal_apart
  have hnone := ipv4Mapped_none hmapped h
  have hout := Network.not_any_contains hapart h
  simp only [List.any_cons, List.any_append, Bool.or_eq_false_iff] at hout
  obtain ⟨hzero, hone, hlink, hmulticast, hprivate, hreserved⟩ := hout
  have hzero : (a.ip == 0) = false := by
    refine beq_eq_false_iff_ne.2 fun hip => ?_
    rw [hip] at hzero
    exact absurd hzero (by decide)
  have hone : (a.ip == 1) = false := by
    refine beq_eq_false_iff_ne.2 fun hip => ?_
    rw [hip] at hone
    exact absurd hone (by decide)
  simp only [IPAddress.refused, IPAddress.isGlobal, IPAddress.isPrivate, IPAddress.isLoopback, IPAddress.isLinkLocal,
    IPAddress.isMulticast, IPAddress.isUnspecified, IPAddress.isReserved, IPAddress.select, isGlobal, isPrivate, isLoopback,
    isLinkLocal, isMulticast, isUnspecified, isReserved, judged, hnone, hzero, hone]
  rw [show a.mem linklocalNetwork = false from hlink, show a.mem multicastNetwork = false from hmulticast,
    show privateNetworks.any a.mem = false from hprivate, show reservedNetworks.any a.mem = false from hreserved]
  rfl

/-- Whatever the string, only a global address passes exactly if the string does not write
a site local one. -/
theorem accepted_routable_iff (value : String) :
    (∀ a, validatePublicIp value = .ok a → a.nonRoutable = false) ↔
      ∀ a, ipAddress (strip value.toList) = some (.v6 a) → a.mem IPv6Address.sitelocalNetwork = false := by
  constructor
  · intro h a ha
    rw [Bool.eq_false_iff]
    intro hsite
    have hroutable := h (.v6 a) (validatePublicIp_ok_iff.2 ⟨ha, IPv6Address.siteLocal_not_refused hsite⟩)
    have hblock : nonRoutable6.any a.mem = true := List.any_eq_true.2 ⟨IPv6Address.sitelocalNetwork, by simp [nonRoutable6,
      IPv6Address.sitelocalNetwork], hsite⟩
    rw [IPAddress.nonRoutable, hblock] at hroutable
    exact Bool.noConfusion hroutable
  · intro h a ha
    obtain ⟨hread, haccepted⟩ := validatePublicIp_ok_iff.1 ha
    rw [Bool.eq_false_iff]
    intro hblock
    rcases IPAddress.refused_of_nonRoutable hblock with hrefused | ⟨a6, rfl, hsite⟩
    · exact Bool.noConfusion (haccepted.symm.trans hrefused)
    · exact Bool.noConfusion ((h a6 hread).symm.trans hsite)

/-- fec0::1 is accepted. -/
theorem accepted_not_routable : ∃ a, validatePublicIp "fec0::1" = .ok a ∧ a.nonRoutable = true :=
  ⟨.v6 ⟨⟨0xfec0 * 2 ^ 112 + 1, by decide⟩, none⟩, by decide +kernel, by decide +kernel⟩

end IpCountryApi.Domain
