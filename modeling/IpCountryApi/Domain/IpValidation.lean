import IpCountryApi.Domain.AddressBlocks
import IpCountryApi.Domain.Errors

/-! The request string becomes an address, or one of two validation errors. -/
namespace IpCountryApi.Domain

def validatePublicIp (value : String) : Except AppError IPAddress :=
  match ipAddress (strip value.toList) with
  | none => .error .invalidIP
  | some address =>
    if !address.isGlobal || address.isPrivate || address.isLoopback || address.isLinkLocal ||
        address.isMulticast || address.isUnspecified || address.isReserved then
      .error .nonPublicIP
    else .ok address

/-- The accepted address is the one the stripped string writes. -/
theorem validatePublicIp_ok {value : String} {a : IPAddress} (h : validatePublicIp value = .ok a) :
    ipAddress (strip value.toList) = some a := by
  unfold validatePublicIp at h
  split at h
  · cases h
  · rename_i hp
    split at h
    · cases h
    · rw [hp, Except.ok.inj h]

end IpCountryApi.Domain
