import IpCountryApi.Domain.AddressRoundTrip
import IpCountryApi.Domain.IpValidation

/-! How long the spellings of an address can be: the longest has six full groups and a full
dotted quad. -/
namespace IpCountryApi.Domain
open Library

theorem length_split (s : Text) (sep : Char) :
    s.length + 1 = ((s.splitOn sep).map List.length).sum + (s.splitOn sep).length := by
  have h : ([sep].intercalate (s.splitOn sep)).length + 1 = _ := length_joined (List.splitOn_ne_nil sep s)
  rwa [List.intercalate_splitOn] at h

private theorem parseOctet_length {octet : Text} {n : Nat} (h : parseOctet octet = some n) : octet.length ≤ 3 := by
  unfold parseOctet at h
  split at h
  · cases h
  · split at h
    · cases h
    · split at h
      · cases h
      · omega

private theorem parseHextet_length {hextet : Text} {n : Nat} (h : parseHextet hextet = some n) : hextet.length ≤ 4 := by
  unfold parseHextet at h
  split at h
  · cases h
  · split at h
    · cases h
    · omega

theorem IPv4Address.ofText_length {s : Text} {a : IPv4Address} (h : IPv4Address.ofText s = some a) :
    2 ≤ s.length ∧ s.length ≤ 15 := by
  unfold ofText ipIntFromString at h
  split at h
  · cases h
  · obtain ⟨_, h, _⟩ := Option.map_eq_some_iff.mp h
    dsimp only at h
    split at h
    · rename_i hfour
      obtain ⟨bytes, hbytes, _⟩ := Option.bind_eq_some_iff.mp h
      have hoctets : ∀ octet ∈ s.splitOn '.', octet.length ≤ 3 := by
        intro octet hoctet
        obtain ⟨n, hn⟩ := mapM_some_of_mem hbytes hoctet
        exact parseOctet_length hn
      have hsum := sum_length_le hoctets
      have hcount : (s.splitOn '.').countP (· ≠ []) ≤ (s.splitOn '.').length := List.countP_le_length
      have hlength := length_split s '.'
      omega
    · cases h

namespace IPv6Address

/-- The empty part that is neither first nor last. -/
private theorem skipIndex_split {parts : List Text} {i : Nat} (h : skipIndex parts = some (some i)) :
    ∃ first u v last, parts = first :: u ++ [] :: v ++ [last] ∧ i = u.length + 1 := by
  unfold skipIndex at h
  dsimp only at h
  split at h
  · cases h
  · rename_i hone
    have hmem : [] ∈ parts.tail.dropLast := List.count_pos_iff.mp (hone ▸ Nat.one_pos)
    obtain ⟨u, v, hinner, hfirst⟩ := List.eq_append_cons_of_mem hmem
    have hi : u.length + 1 = i := by
      have hidx : parts.tail.dropLast.idxOf [] = u.length := by
        rw [hinner, List.idxOf_append_of_notMem hfirst, List.idxOf_cons_self, Nat.add_zero]
      rw [← hidx]
      exact Option.some.inj (Option.some.inj h)
    rw [← hi]
    cases parts with
    | nil => simp at hinner
    | cons first tail =>
      rcases List.eq_nil_or_concat' tail with rfl | ⟨inner, last, rfl⟩
      · simp at hinner
      · rw [List.tail_cons, List.dropLast_concat] at hinner
        exact ⟨first, u, v, last, by rw [hinner]; simp, rfl⟩
  · cases h

/-- An outer part that is empty must be next to the run, and then belongs to it. -/
private theorem outer_cases {outer : Text} {others : List Text} {n : Nat}
    (h : (if outer = [] then (if others.length = 0 then some 0 else none) else some (others.length + 1)) = some n) :
    (outer = [] ∧ others = [] ∧ n = 0) ∨ n = others.length + 1 := by
  split at h
  · rename_i hempty
    split at h
    · rename_i hothers
      exact .inl ⟨hempty, List.length_eq_zero_iff.mp hothers, (Option.some.inj h).symm⟩
    · cases h
  · exact .inr (Option.some.inj h).symm

/-- Eight groups, or at most seven around a run of empty parts. -/
private theorem partCounts_split {parts : List Text} {high low skipped : Nat}
    (h : partCounts parts = some (high, low, skipped)) :
    (parts.length = 8 ∧ high = 8) ∨
    ∃ before inside after, parts = before ++ inside ++ after ∧ before.length = high ∧ after.length = low ∧
      high + low ≤ 7 ∧ ∀ part ∈ inside, part = [] := by
  unfold partCounts at h
  split at h
  · cases h
  · -- the empty part inside splits the others
    rename_i i hskip
    obtain ⟨first, u, v, last, rfl, rfl⟩ := skipIndex_split hskip
    have hfirst : (first :: u ++ [] :: v ++ [last]).head? = some first := rfl
    have hlast : (first :: u ++ [] :: v ++ [last]).getLast? = some last := List.getLast?_concat
    have hlow : (first :: u ++ [] :: v ++ [last]).length - (u.length + 1) - 1 = v.length + 1 := by
      simp only [List.length_append, List.length_cons, List.length_nil]
      omega
    simp only [hfirst, hlast, hlow, Option.some.injEq, Nat.add_sub_cancel] at h
    split at h
    · rename_i high' low' hhigh hlow'
      split at h
      · cases h
        have hbefore : ∃ before inside, first :: u = before ++ inside ∧ before.length = high ∧
            ∀ part ∈ inside, part = [] := by
          rcases outer_cases hhigh with ⟨rfl, rfl, rfl⟩ | rfl
          · exact ⟨[], [[]], rfl, rfl, by simp⟩
          · exact ⟨first :: u, [], by simp, rfl, by simp⟩
        have hafter : ∃ inside after, v ++ [last] = inside ++ after ∧ after.length = low ∧ ∀ part ∈ inside, part = [] := by
          rcases outer_cases hlow' with ⟨rfl, rfl, rfl⟩ | rfl
          · exact ⟨[[]], [], rfl, rfl, by simp⟩
          · exact ⟨[], v ++ [last], rfl, List.length_append, by simp⟩
        obtain ⟨before, inside, hb, hhigh, hinside⟩ := hbefore
        obtain ⟨inside', after, ha, hlow, hinside'⟩ := hafter
        refine .inr ⟨before, inside ++ [] :: inside', after, ?_, hhigh, hlow, by omega, ?_⟩
        · rw [hb, List.append_assoc, List.cons_append, ha]
          simp
        · intro part hpart
          rcases List.mem_append.mp hpart with hpart | hpart
          · exact hinside part hpart
          · rcases List.mem_cons.mp hpart with rfl | hpart
            · rfl
            · exact hinside' part hpart
      · cases h
    · cases h
  · split at h
    · rename_i hplain
      cases h
      exact .inl ⟨hplain.1, rfl⟩
    · cases h

private theorem parts_bounds {parts : List Text} {gs : List Nat} (h : groups parts = some gs) :
    (∀ part ∈ parts, part.length ≤ 4) ∧ (parts.length = 8 ∨ parts.countP (· ≠ []) ≤ 7) := by
  have short : ∀ {hextets : List Text} {hs}, hextets.mapM parseHextet = some hs → ∀ hextet ∈ hextets, hextet.length ≤ 4 := by
    intro hextets hs hmap hextet hmem
    obtain ⟨n, hn⟩ := mapM_some_of_mem hmap hmem
    exact parseHextet_length hn
  unfold groups at h
  split at h
  · cases h
  · rename_i high low skipped hcounts
    split at h
    · rename_i hs ls hhs hls
      rcases partCounts_split hcounts with ⟨height, rfl⟩ | ⟨before, inside, after, rfl, rfl, rfl, hseven, hinside⟩
      · rw [List.take_of_length_le height.le] at hhs
        exact ⟨short hhs, .inl height⟩
      · rw [List.append_assoc, List.take_left] at hhs
        rw [List.length_append, Nat.add_sub_cancel, List.drop_left] at hls
        constructor
        · intro part hpart
          rcases List.mem_append.mp hpart with hpart | hpart
          · rcases List.mem_append.mp hpart with hpart | hpart
            · exact short hhs part hpart
            · rw [hinside part hpart]
              exact Nat.zero_le 4
          · exact short hls part hpart
        · have hbefore : before.countP (· ≠ []) ≤ before.length := List.countP_le_length
          have hafter : after.countP (· ≠ []) ≤ after.length := List.countP_le_length
          have hnone : inside.countP (· ≠ []) = 0 := List.countP_eq_zero.mpr fun part hpart => by simp [hinside part hpart]
          rw [List.countP_append, List.countP_append, hnone]
          exact .inr (by omega)
    · cases h

/-- A dotted quad takes the place of two groups. -/
theorem ipIntFromString_length {s : Text} {ip : Fin (2 ^ 128)} (h : ipIntFromString s = some ip) :
    2 ≤ s.length ∧ s.length ≤ 45 := by
  have hlength := length_split s ':'
  unfold ipIntFromString at h
  dsimp only at h
  split at h
  · cases h
  · rename_i hthree
    obtain ⟨parts, hparts, h⟩ := Option.bind_eq_some_iff.mp h
    split at h
    · cases h
    · rename_i hnine
      obtain ⟨gs, hgs, _⟩ := Option.bind_eq_some_iff.mp h
      obtain ⟨hshort, hcount⟩ := parts_bounds hgs
      have hle : parts.countP (· ≠ []) ≤ parts.length := List.countP_le_length
      unfold expandIPv4Suffix at hparts
      dsimp only at hparts
      split at hparts
      · obtain ⟨a, ha, rfl⟩ := Option.map_eq_some_iff.mp hparts
        rcases List.eq_nil_or_concat' (s.splitOn ':') with hnil | ⟨front, last, hsplit⟩
        · exact absurd hnil (List.splitOn_ne_nil ':' s)
        · rw [hsplit, List.getLast?_concat, Option.getD_some] at ha
          rw [hsplit, List.dropLast_concat] at hshort hcount hle
          have hquad := (IPv4Address.ofText_length ha).2
          have hsum := sum_length_le fun part hpart => hshort part (List.mem_append_left _ hpart)
          have hgroups : ([Nat.toDigits 16 (a.ip / 65536), Nat.toDigits 16 (a.ip % 65536)] : List Text).countP (· ≠ []) = 2 := by
            simp
          rw [List.countP_append, hgroups] at hcount hle
          rw [hsplit, List.map_append, List.sum_append] at hlength
          rw [hsplit, List.dropLast_concat] at hnine
          rw [hsplit] at hthree
          simp only [List.map_cons, List.map_nil, List.sum_cons, List.sum_nil, List.length_append, List.length_cons,
            List.length_nil] at hthree hnine hcount hle hlength
          omega
      · cases hparts
        have hsum := sum_length_le hshort
        omega

end IPv6Address

theorem length_ipAddress {s : Text} {a : IPAddress} (h : ipAddress s = some a) (hzone : '%' ∉ s) :
    2 ≤ s.length ∧ s.length ≤ 45 := by
  unfold ipAddress at h
  split at h
  · rename_i a4 h4
    have hquad := IPv4Address.ofText_length h4
    exact ⟨hquad.1, hquad.2.trans (by decide)⟩
  · obtain ⟨a6, h6, _⟩ := Option.map_eq_some_iff.mp h
    unfold IPv6Address.ofText at h6
    split at h6
    · cases h6
    · obtain ⟨⟨addr, scopeId⟩, hscope, h6⟩ := Option.bind_eq_some_iff.mp h6
      obtain ⟨ip, hip, _⟩ := Option.map_eq_some_iff.mp h6
      have hnone : s.dropWhile (· ≠ '%') = [] := by
        rw [List.dropWhile_eq_nil_iff]
        intro c hc
        exact decide_eq_true fun he => hzone (he ▸ hc)
      rw [IPv6Address.splitScopeId, hnone] at hscope
      cases hscope
      exact IPv6Address.ipIntFromString_length hip

end IpCountryApi.Domain
