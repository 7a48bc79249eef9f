import IpCountryApi.Domain.IpValidation
import IpCountryApi.Execution.CacheTable

/-! The cache key of a request string: the text of the address it was validated to. -/
namespace IpCountryApi.Repositories
open Library Domain Execution

/-- The family and the number of an address; a zone is part of neither. -/
def number : IPAddress → Fin (2 ^ 32) ⊕ Fin (2 ^ 128)
  | .v4 a => .inl a.ip
  | .v6 a => .inr a.ip

/-- The key of an address is one that the key column accepts and that reads back. -/
structure KeyOk (T : InetType) (a : IPAddress) : Prop where
  accepted : (T.input a.str).isSome
  readsBack : ipAddress a.str = some a

/-- Two accepted addresses have good keys, and one key exactly when they are one address. -/
structure CanonicalKeys (T : InetType) (a b : IPAddress) : Prop where
  left : KeyOk T a
  right : KeyOk T b
  sameKey : a.str = b.str ↔ number a = number b

variable {T : InetType} {a b : IPAddress}

theorem keyOk_iff : KeyOk T a ↔ a.scopeId = none := by
  constructor
  · intro h
    obtain ⟨v, hv⟩ := Option.isSome_iff_exists.mp h.accepted
    exact InetType.scopeId_of_input hv
  · intro h
    obtain ⟨v, hv, _⟩ := T.plain a h
    exact ⟨Option.isSome_iff_exists.mpr ⟨v, hv⟩, ipAddress_str a⟩

private theorem eq_of_number (ha : a.scopeId = none) (hb : b.scopeId = none) (h : number a = number b) : a = b := by
  cases a with
  | v4 a => cases b with
    | v4 b => exact congrArg (fun ip => IPAddress.v4 ⟨ip⟩) (Sum.inl.inj h)
    | v6 b => cases h
  | v6 a => cases b with
    | v4 b => cases h
    | v6 b =>
      obtain ⟨ip, scopeId⟩ := a
      obtain ⟨ip', scopeId'⟩ := b
      obtain rfl : scopeId = none := ha
      obtain rfl : scopeId' = none := hb
      exact congrArg (fun ip => IPAddress.v6 ⟨ip, none⟩) (Sum.inr.inj h)

theorem canonicalKeys_scope : CanonicalKeys T a b ↔ a.scopeId = none ∧ b.scopeId = none := by
  constructor
  · exact fun h => ⟨keyOk_iff.mp h.left, keyOk_iff.mp h.right⟩
  · exact fun ⟨ha, hb⟩ => ⟨keyOk_iff.mpr ha, keyOk_iff.mpr hb,
      ⟨fun h => congrArg number (IPAddress.str_injective h), fun h => congrArg IPAddress.str (eq_of_number ha hb h)⟩⟩

private theorem percent_splitScopeId {s addr : Text} {scopeId : Option ScopeId}
    (h : IPv6Address.splitScopeId s = some (addr, scopeId)) : '%' ∈ s ↔ scopeId ≠ none := by
  unfold IPv6Address.splitScopeId at h
  split at h
  · rename_i hdrop
    cases h
    have hall := List.dropWhile_eq_nil_iff.mp hdrop
    exact iff_of_false (fun hp => by simpa using hall '%' hp) (by simp)
  · rename_i c scope hdrop
    split at h
    · cases h
      have hmem : c ∈ s := List.dropWhile_subset _ (hdrop ▸ List.mem_cons_self)
      have hc : c = '%' := by
        have := List.head?_dropWhile_not (fun c => c ≠ '%') s
        rw [hdrop] at this
        simpa using this
      exact iff_of_true (hc ▸ hmem) (by simp)
    · cases h

/-- A text writes a zone exactly when it has a percent sign. -/
theorem percent_ipAddress {s : Text} (h : ipAddress s = some a) : '%' ∈ s ↔ a.scopeId ≠ none := by
  unfold ipAddress at h
  split at h
  · rename_i a4 h4
    cases h
    exact iff_of_false (fun hp => absurd (IPv4Address.ofText_chars h4 '%' hp) (by decide)) (by simp [IPAddress.scopeId])
  · obtain ⟨a6, h6, rfl⟩ := Option.map_eq_some_iff.mp h
    unfold IPv6Address.ofText at h6
    split at h6
    · cases h6
    · obtain ⟨⟨addr, scopeId⟩, hs, h6⟩ := Option.bind_eq_some_iff.mp h6
      obtain ⟨ip, _, rfl⟩ := Option.map_eq_some_iff.mp h6
      exact percent_splitScopeId hs

theorem percent_accepted {s : String} (h : validatePublicIp s = .ok a) : '%' ∈ s.toList ↔ a.scopeId ≠ none := by
  rw [← mem_strip_iff (by decide), percent_ipAddress (validatePublicIp_ok h)]

/-- Two accepted strings have canonical keys exactly when neither writes a zone. -/
theorem canonicalKeys_iff {s t : String} (hs : validatePublicIp s = .ok a) (ht : validatePublicIp t = .ok b) :
    CanonicalKeys T a b ↔ '%' ∉ s.toList ∧ '%' ∉ t.toList := by
  rw [canonicalKeys_scope, percent_accepted hs, percent_accepted ht, not_not, not_not]

theorem canonicalKeys_iff_example : CanonicalKeys hostAddresses (.v4 ⟨0x08080808⟩) (.v4 ⟨0x08080808⟩) :=
  (canonicalKeys_iff (s := "8.8.8.8") (t := " 8.8.8.8\n") (by decide +kernel) (by decide +kernel)).mpr
    ⟨by decide, by decide⟩

/-- One address in two spellings: the zone gives it a second key, which the column refuses. -/
theorem zone_not_canonical : ∃ a b, validatePublicIp "2001:4860:4860::8888" = .ok a ∧
    validatePublicIp "2001:4860:4860::8888%eth0" = .ok b ∧ number a = number b ∧ a.str ≠ b.str ∧
    ¬ KeyOk hostAddresses b ∧ ¬ CanonicalKeys hostAddresses a b := by
  refine ⟨.v6 ⟨0x20014860486000000000000000008888, none⟩,
    .v6 ⟨0x20014860486000000000000000008888, some ⟨"eth0".toList, by decide, by decide, by decide⟩⟩,
    by decide +kernel, by decide +kernel, rfl, fun h => absurd (IPAddress.str_injective h) (by decide), ?_, ?_⟩
  · exact fun h => absurd (keyOk_iff.mp h) (by decide)
  · exact fun h => absurd (canonicalKeys_scope.mp h).2 (by decide)

end IpCountryApi.Repositories
