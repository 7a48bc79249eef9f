import IpCountryApi.Domain.AddressText
import IpCountryApi.Library.UriComponents

/-! The setting GEOIP_PROVIDER_BASE_URL: which URLs its validation accepts, and where requests
built from them go. -/
namespace IpCountryApi.Providers
open Library Domain

def acceptedPrefixes : List Text := ["https://".toList, "http://localhost".toList, "http://127.0.0.1".toList]

/-- Settings.validate_provider_url. -/
def validateProviderUrl (value : Text) : Option Text :=
  if !acceptedPrefixes.any (·.isPrefixOf value) then none else some (value.rdropWhile (· = '/'))

/-- The URL of a request, as httpx documents its base URL: the path of a request is appended to it. -/
def requestUrl (base : Text) (ip : IPAddress) : Text := base ++ "/lite/".toList ++ ip.str

def localHosts : List Text := ["localhost".toList, "127.0.0.1".toList]

/-- Encrypted, or not leaving the machine. -/
def Protected (url : Text) : Prop :=
  Uri.scheme url = some "https".toList ∨ ∃ name ∈ localHosts, Uri.host url = some name

instance (url : Text) : Decidable (Protected url) := inferInstanceAs (Decidable (_ ∨ _))

/-- What follows a local name up to the end of the authority keeps it the host, or names a
local host itself. -/
def StaysLocal (suffix : Text) : Prop :=
  if '@' ∈ suffix then Uri.hostOf suffix ∈ localHosts else suffix = [] ∨ suffix.head? = some ':'

/-- The condition on an accepted URL. -/
def ProtectedText (value : Text) : Prop :=
  "https://".toList <+: value ∨
  ∃ name ∈ localHosts, ∃ rest, value = "http://".toList ++ name ++ rest ∧
    StaysLocal (rest.takeWhile (!Uri.endsAuthority ·))

theorem accepted_cases {value base : Text} (h : validateProviderUrl value = some base) :
    base = value.rdropWhile (· = '/') ∧ ((∃ rest, value = "https:".toList ++ '/' :: '/' :: rest) ∨
      ∃ name ∈ localHosts, ∃ rest, value = "http://".toList ++ name ++ rest) := by
  rw [validateProviderUrl] at h
  split at h
  · cases h
  · rename_i haccepted
    refine ⟨(Option.some.inj h).symm, ?_⟩
    simp only [Bool.not_eq_true', Bool.not_eq_false, List.any_eq_true, acceptedPrefixes, List.mem_cons, List.not_mem_nil,
      or_false, List.isPrefixOf_iff_prefix] at haccepted
    obtain ⟨front, rfl | rfl | rfl, rest, rfl⟩ := haccepted
    · exact .inl ⟨rest, rfl⟩
    · exact .inr ⟨"localhost".toList, .head _, rest, rfl⟩
    · exact .inr ⟨"127.0.0.1".toList, .tail _ (.head _), rest, rfl⟩

theorem protected_https (rest : Text) : Protected ("https:".toList ++ rest) := by
  have hscheme : Uri.scheme ("https".toList ++ ':' :: rest) = some "https".toList :=
    Uri.scheme_named (by decide) (by decide) rest
  exact .inl hscheme

/-- The local names are plain. -/
theorem localHosts_plain {name : Text} (h : name ∈ localHosts) : name ≠ [] ∧
    name.all (!Uri.endsAuthority ·) = true ∧ name.all (fun c => c ≠ '@' && c ≠ ':' && c ≠ '[') = true := by
  simp only [localHosts, List.mem_cons, List.not_mem_nil, or_false] at h
  rcases h with rfl | rfl <;> decide

/-- No local name extends another one. -/
theorem localHosts_append {name tail : Text} (h : name ∈ localHosts) : name ++ tail ∈ localHosts ↔ tail = [] := by
  constructor
  · intro hmem
    simp only [localHosts, List.mem_cons, List.not_mem_nil, or_false] at h hmem
    rcases h with rfl | rfl
    · rcases hmem with hmem | hmem
      · exact List.append_right_eq_self.1 hmem
      · simp at hmem
    · rcases hmem with hmem | hmem
      · simp at hmem
      · exact List.append_right_eq_self.1 hmem
  · rintro rfl
    rwa [List.append_nil]

theorem takeWhile_port (suffix : Text) : suffix.takeWhile (· ≠ ':') = [] ↔ suffix = [] ∨ suffix.head? = some ':' := by
  cases suffix with
  | nil => simp
  | cons c suffix => by_cases hc : c = ':' <;> simp [hc]

/-- A local URL is protected exactly if what follows the name stays local. -/
theorem protected_local {name : Text} (hname : name ∈ localHosts) (rest : Text) :
    Protected ("http://".toList ++ name ++ rest) ↔ StaysLocal (rest.takeWhile (!Uri.endsAuthority ·)) := by
  obtain ⟨hne, hends, hplain⟩ := localHosts_plain hname
  have hsplit : "http://".toList ++ name ++ rest = "http".toList ++ ':' :: '/' :: '/' :: (name ++ rest) := rfl
  have hscheme : Uri.scheme ("http://".toList ++ name ++ rest) = some "http".toList := by
    rw [hsplit]
    exact Uri.scheme_named (by decide) (by decide) _
  have hhost : Uri.host ("http://".toList ++ name ++ rest) =
      some (Uri.hostOf (name ++ rest.takeWhile (!Uri.endsAuthority ·))) := by
    rw [hsplit, Uri.host, Uri.authority_named (by decide) (by decide), Option.map_some,
      List.takeWhile_append_of_pos (List.all_eq_true.mp hends)]
  rw [Protected, hscheme, hhost, Uri.hostOf_named hne hplain, StaysLocal]
  have hother : ¬ some "http".toList = some "https".toList := by decide
  simp only [hother, false_or, Option.some.injEq, exists_eq_right']
  split
  · rfl
  · rw [localHosts_append hname, takeWhile_port]

/-- Neither dropped slashes nor an appended path change what a URL is protected by. -/
theorem protected_rest {name : Text} (hname : name ∈ localHosts) (rest path : Text) :
    Protected (("http://".toList ++ name ++ rest).rdropWhile (· = '/') ++ '/' :: path) ↔
      StaysLocal (rest.takeWhile (!Uri.endsAuthority ·)) := by
  have hfront : "http://".toList ++ name ≠ [] := by simp
  have hlast : ¬ decide (("http://".toList ++ name).getLast hfront = '/') = true := by
    simp only [localHosts, List.mem_cons, List.not_mem_nil, or_false] at hname
    rcases hname with rfl | rfl <;> decide +revert
  rw [Uri.rdropWhile_append hfront hlast, List.append_assoc, protected_local hname, Uri.takeWhile_ended]
  · have hsplit : rest.rdropWhile (· = '/') ++ rest.rtakeWhile (· = '/') = rest := List.rdropWhile_append_rtakeWhile
    conv_rhs => rw [← hsplit]
    rw [Uri.takeWhile_ended]
    intro c hc
    have hslash := List.mem_rtakeWhile_imp (List.mem_of_mem_head? hc)
    rw [of_decide_eq_true hslash]
    rfl
  · intro c hc
    cases hc
    rfl

/-- An accepted URL, and every request built from it, is encrypted or local exactly if its text
is of one of these forms. -/
theorem providerUrl_protected_iff {value base : Text} (h : validateProviderUrl value = some base) :
    (Protected value ↔ ProtectedText value) ∧ ∀ ip, Protected (requestUrl base ip) ↔ ProtectedText value := by
  have hrequest : ∀ ip, ∃ path, requestUrl base ip = base ++ '/' :: path := fun ip =>
    ⟨"lite/".toList ++ ip.str, List.append_assoc ..⟩
  have hlocal : ∀ name rest, value = "http://".toList ++ name ++ rest → name ∈ localHosts →
      (StaysLocal (rest.takeWhile (!Uri.endsAuthority ·)) ↔ Protected value) := by
    rintro name rest rfl hname
    exact (protected_local hname rest).symm
  have htext : Protected value ↔ ProtectedText value := by
    constructor
    · intro hp
      rcases (accepted_cases h).2 with ⟨rest, rfl⟩ | ⟨name, hname, rest, hvalue⟩
      · exact .inl ⟨rest, rfl⟩
      · exact .inr ⟨name, hname, rest, hvalue, (hlocal name rest hvalue hname).2 hp⟩
    · rintro (⟨rest, rfl⟩ | ⟨name, hname, rest, hvalue, hstays⟩)
      · exact protected_https ('/' :: '/' :: rest)
      · exact (hlocal name rest hvalue hname).1 hstays
  refine ⟨htext, fun ip => ?_⟩
  obtain ⟨path, hpath⟩ := hrequest ip
  rw [hpath, ← htext]
  obtain ⟨hbase, hcases⟩ := accepted_cases h
  rcases hcases with ⟨rest, rfl⟩ | ⟨name, hname, rest, rfl⟩
  · refine iff_of_true ?_ (protected_https _)
    rw [hbase, Uri.rdropWhile_append (by decide) (by decide), List.append_assoc]
    exact protected_https _
  · rw [hbase, protected_rest hname, protected_local hname]

theorem providerUrl_protected_port : Protected (requestUrl "http://localhost:8080".toList (.v4 ⟨0x08080808⟩)) := by
  have haccepted : validateProviderUrl "http://localhost:8080/".toList = some "http://localhost:8080".toList := by
    decide +kernel
  refine ((providerUrl_protected_iff haccepted).2 _).2 (.inr ⟨"localhost".toList, .head _, ":8080/".toList, by decide, ?_⟩)
  exact .inr (by decide)

/-- The local name as user information, or as the start of a longer host name. -/
theorem providerUrl_not_protected :
    validateProviderUrl "http://localhost@example.com".toList = some "http://localhost@example.com".toList ∧
    Uri.host (requestUrl "http://localhost@example.com".toList (.v4 ⟨0x08080808⟩)) = some "example.com".toList ∧
    ¬ Protected (requestUrl "http://localhost@example.com".toList (.v4 ⟨0x08080808⟩)) ∧
    validateProviderUrl "http://127.0.0.1.example.com".toList = some "http://127.0.0.1.example.com".toList ∧
    ¬ Protected "http://localhost@example.com".toList ∧ ¬ Protected "http://127.0.0.1.example.com".toList := by
  decide +kernel

end IpCountryApi.Providers
