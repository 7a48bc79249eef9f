import IpCountryApi.Domain.AddressText
import IpCountryApi.Library.JoinedText
import Mathlib.Data.List.Infix

/-! Every address reads back from its own text. The compressed IPv6 form is
followed through the longest zero run that the writer removes. -/
namespace IpCountryApi.Domain
open Library

theorem addressInt_val {m : Nat} (i : Fin m) : addressInt m i = some i := by
  simp [addressInt, i.isLt]

/-! IPv4. -/

theorem parseOctet_toDigits {n : Nat} (hn : n < 256) : parseOctet (Nat.toDigits 10 n) = some n := by
  have hdigits : (Nat.toDigits 10 n).all Char.isDigit = true :=
    List.all_eq_true.mpr fun c hc => Nat.isDigit_of_mem_toDigits (by decide) (by decide) hc
  have hlen : (Nat.toDigits 10 n).length ≤ 3 :=
    (Nat.length_toDigits_le_iff (by decide) (by decide)).mpr (by omega)
  have hlead : ¬ (Nat.toDigits 10 n ≠ ['0'] ∧ (Nat.toDigits 10 n).head? = some '0') := by
    rintro ⟨hne, hz⟩
    rw [toDigits_leading_zero (by decide) hz] at hne
    exact hne (Nat.toDigits_zero 10)
  have hval := numeral_toDigits (b := 10) (by decide) (by decide) n
  rw [parseOctet, if_neg Nat.toDigits_ne_nil, hdigits, if_neg (by decide), if_neg (by omega),
    if_neg hlead, hval, if_neg (by omega)]

private theorem parseOctet_digits {s : Text} {n : Nat} (h : parseOctet s = some n) :
    s.all Char.isDigit = true := by
  unfold parseOctet at h
  split at h
  · cases h
  · split at h
    · cases h
    · rename_i hd
      simpa using hd

/-- A dotted quad has only digits and dots. -/
theorem IPv4Address.ofText_chars {s : Text} {a : IPv4Address} (h : IPv4Address.ofText s = some a) :
    ∀ c ∈ s, c.isDigit = true ∨ c = '.' := by
  intro c hc
  unfold ofText ipIntFromString at h
  split at h
  · cases h
  · obtain ⟨_, h, _⟩ := Option.map_eq_some_iff.mp h
    dsimp only at h
    split at h
    · obtain ⟨bytes, hbytes, _⟩ := Option.bind_eq_some_iff.mp h
      rw [← @List.intercalate_splitOn _ s _ _ '.'] at hc
      rcases mem_joined hc with hc | ⟨part, hpart, hc⟩
      · exact .inr hc
      · obtain ⟨n, hn⟩ := mapM_some_of_mem hbytes hpart
        exact .inl (List.all_eq_true.mp (parseOctet_digits hn) c hc)
    · cases h

private theorem octet_char {a : IPv4Address} {octet : Text} {c : Char}
    (ho : octet ∈ (bigEndian 256 4 a.ip).map (Nat.toDigits 10)) (hc : c ∈ octet) : c.isDigit = true := by
  obtain ⟨n, _, rfl⟩ := List.mem_map.mp ho
  exact Nat.isDigit_of_mem_toDigits (by decide) (by decide) hc

theorem IPv4Address.str_chars {a : IPv4Address} {c : Char} (hc : c ∈ a.str) :
    c = '.' ∨ c.isDigit = true := by
  rcases mem_joined hc with hc | ⟨octet, ho, hc⟩
  · exact .inl hc
  · exact .inr (octet_char ho hc)

theorem IPv4Address.ofText_str (a : IPv4Address) : IPv4Address.ofText a.str = some a := by
  have hslash : '/' ∉ a.str := fun hc => (str_chars hc).elim (by decide) (by decide)
  have hsplit : a.str.splitOn '.' = (bigEndian 256 4 a.ip).map (Nat.toDigits 10) := by
    apply List.splitOn_intercalate
    · exact fun octet ho hc => absurd (octet_char ho hc) (by decide)
    · exact List.ne_nil_of_length_pos (by simp)
  have hbytes : ((bigEndian 256 4 a.ip).map (Nat.toDigits 10)).mapM parseOctet = some (bigEndian 256 4 a.ip) :=
    mapM_map_some fun n hn => parseOctet_toDigits (mem_bigEndian (by decide) hn)
  have hint : ipIntFromString a.str = some a.ip := by
    rw [ipIntFromString, hsplit]
    simp only [List.length_map, bigEndian_length, if_true, hbytes, Option.bind_some]
    rw [ofBigEndian_bigEndian (lt_of_lt_of_eq a.ip.isLt (by norm_num)), addressInt_val]
  rw [ofText, if_neg hslash, hint]
  rfl

/-! IPv6 hextets. -/

theorem parseHextet_toDigits {n : Nat} (hn : n < 65536) : parseHextet (Nat.toDigits 16 n) = some n := by
  have hdigits : (Nat.toDigits 16 n).all isHexDigit = true :=
    List.all_eq_true.mpr fun c hc => isHexDigit_of_mem_toDigits (by decide) (by decide) hc
  have hlen : (Nat.toDigits 16 n).length ≤ 4 :=
    (Nat.length_toDigits_le_iff (by decide) (by decide)).mpr (by omega)
  rw [parseHextet, hdigits, if_neg (by decide), if_neg (by omega), if_neg Nat.toDigits_ne_nil,
    numeral_toDigits (by decide) (by decide)]

/-! The zero run the writer compresses. -/

namespace IPv6Address

private structure ZeroRun.Sound (hextets : List Text) (run : ZeroRun) : Prop where
  best : ∀ i, run.bestStart ≤ i → i < run.bestStart + run.bestLen → hextets[i]? = some ['0']
  current : ∀ s, run.start = some s → s + run.len = hextets.length ∧
    ∀ i, s ≤ i → i < hextets.length → hextets[i]? = some ['0']
  idle : run.start = none → run.len = 0

private theorem ZeroRun.scan_sound (hextets : List Text) : (ZeroRun.scan hextets).Sound hextets := by
  induction hextets using List.reverseRecOn with
  | nil => exact ⟨by simp [ZeroRun.scan], by simp [ZeroRun.scan], fun _ => rfl⟩
  | append_singleton l x ih =>
    have hscan : ZeroRun.scan (l ++ [x]) = (ZeroRun.scan l).next l.length x := by
      simp [ZeroRun.scan, List.zipIdx_append]
    rw [hscan]
    generalize ZeroRun.scan l = run at ih
    have old {i : Nat} (hi : l[i]? = some ['0']) : (l ++ [x])[i]? = some ['0'] := by
      obtain ⟨hlt, _⟩ := List.getElem?_eq_some_iff.mp hi
      rwa [List.getElem?_append_left hlt]
    by_cases hx : x = ['0']
    · subst hx
      have hstart : run.start.getD l.length + run.len = l.length ∧
          ∀ i, run.start.getD l.length ≤ i → i < l.length → l[i]? = some ['0'] := by
        cases hs : run.start with
        | none => exact ⟨by simp [ih.idle hs], fun i hi hl => absurd hi (by simp; omega)⟩
        | some s => exact ih.current s hs
      have current : ∀ i, run.start.getD l.length ≤ i → i < (l ++ [['0']]).length →
          (l ++ [['0']])[i]? = some ['0'] := by
        intro i hi hl
        rcases Nat.lt_or_ge i l.length with hlt | hge
        · exact old (hstart.2 i hi hlt)
        · have he : i = l.length := by simp at hl; omega
          simp [he]
      have hlen : (l ++ [['0']]).length = l.length + 1 := by simp
      unfold ZeroRun.next
      simp only [if_true]
      split
      · refine ⟨fun i hi hl => current i hi ?_, fun s hs => ?_, fun hs => by simp at hs⟩
        · have := hstart.1
          simp only at hl
          omega
        · obtain rfl := Option.some.inj hs
          exact ⟨by have := hstart.1; simp only; omega, current⟩
      · refine ⟨fun i hi hl => old (ih.best i hi hl), fun s hs => ?_, fun hs => by simp at hs⟩
        obtain rfl := Option.some.inj hs
        exact ⟨by have := hstart.1; simp only; omega, current⟩
    · unfold ZeroRun.next
      rw [if_neg hx]
      exact ⟨fun i hi hl => old (ih.best i hi hl), fun s hs => by simp at hs, fun _ => rfl⟩

/-- Parts around one skipped run, with an empty part more at each end it reaches. -/
def skipped (high low : List Text) : List Text :=
  (if high = [] then [[]] else []) ++ high ++ [[]] ++ low ++ (if low = [] then [[]] else [])

/-- The writer either keeps all hextets or skips one run of at least two zeros. -/
theorem compressHextets_cases (hextets : List Text) :
    compressHextets hextets = hextets ∨ ∃ high low k, 2 ≤ k ∧
      hextets = high ++ List.replicate k ['0'] ++ low ∧ compressHextets hextets = skipped high low := by
  have sound := ZeroRun.scan_sound hextets
  unfold compressHextets
  generalize ZeroRun.scan hextets = run at sound
  by_cases hlen : 1 < run.bestLen
  · right
    obtain ⟨hlast, _⟩ := List.getElem?_eq_some_iff.mp
      (sound.best (run.bestStart + run.bestLen - 1) (by omega) (by omega))
    have hmid : (hextets.drop run.bestStart).take run.bestLen = List.replicate run.bestLen ['0'] := by
      apply List.ext_getElem?
      intro i
      rw [List.getElem?_take, List.getElem?_replicate]
      split
      · rename_i hi
        rw [List.getElem?_drop, sound.best _ (by omega) (by omega)]
      · rfl
    refine ⟨hextets.take run.bestStart, hextets.drop (run.bestStart + run.bestLen), run.bestLen, hlen, ?_, ?_⟩
    · rw [← hmid, ← List.drop_drop, List.append_assoc, List.take_append_drop, List.take_append_drop]
    · have hhigh : hextets.take run.bestStart = [] ↔ run.bestStart = 0 := by
        rw [List.take_eq_nil_iff]
        exact or_iff_left_of_imp fun he => by simp [he] at hlast
      have hlow : hextets.drop (run.bestStart + run.bestLen) = [] ↔
          run.bestStart + run.bestLen = hextets.length := by
        rw [List.drop_eq_nil_iff]
        omega
      simp only [if_pos hlen, skipped, hhigh, hlow]
  · left
    rw [if_neg hlen]

/-! Reading the written parts back. -/

private theorem skipped_inner (high low : List Text) :
    (skipped high low).tail.dropLast = high.tail ++ [[]] ++ low.dropLast := by
  rcases List.eq_nil_or_concat' low with rfl | ⟨m, z, rfl⟩ <;> cases high <;>
    simp [skipped, List.dropLast_cons_of_ne_nil, List.dropLast_append_of_ne_nil]

private theorem skipped_length (high low : List Text) : (skipped high low).length =
    (if high = [] then 1 else 0) + high.length + 1 + low.length + (if low = [] then 1 else 0) := by
  cases high <;> cases low <;> simp [skipped] <;> omega

private theorem skipIndex_skipped {high low : List Text} (hh : [] ∉ high) (hl : [] ∉ low) :
    skipIndex (skipped high low) = some (some (high.tail.length + 1)) := by
  have hh' : [] ∉ high.tail := fun h => hh (List.mem_of_mem_tail h)
  have hl' : [] ∉ low.dropLast := fun h => hl (List.dropLast_subset low h)
  have hcount : (high.tail ++ [[]] ++ low.dropLast).count [] = 1 := by
    simp [List.count_append, List.count_eq_zero_of_not_mem hh', List.count_eq_zero_of_not_mem hl']
  have hidx : (high.tail ++ [[]] ++ low.dropLast).idxOf [] = high.tail.length := by
    rw [List.append_assoc, List.idxOf_append_of_notMem hh']
    simp
  simp only [skipIndex, skipped_inner, hcount, hidx]

private theorem skipped_ends {high low : List Text} (hh : [] ∉ high) (hl : [] ∉ low) :
    ((skipped high low).head? = some [] ↔ high = []) ∧ ((skipped high low).getLast? = some [] ↔ low = []) := by
  constructor
  · cases high with
    | nil => simp [skipped]
    | cons a high => simpa [skipped] using fun he : a = [] => hh (by simp [he])
  · rcases List.eq_nil_or_concat' low with rfl | ⟨m, z, rfl⟩
    · simp [skipped]
    · simpa [skipped, List.getLast?_cons] using fun he : z = [] => hl (by simp [he])

private theorem partCounts_skipped {high low : List Text} (hh : [] ∉ high) (hl : [] ∉ low)
    (hlen : high.length + low.length < 8) :
    partCounts (skipped high low) = some (high.length, low.length, 8 - (high.length + low.length)) := by
  obtain ⟨hhead, hlast⟩ := skipped_ends hh hl
  simp only [partCounts, skipIndex_skipped hh hl, hhead, hlast, skipped_length, List.length_tail]
  cases high <;> cases low <;> simp at hlen ⊢ <;> omega

/-- Empty parts inside the list are exactly the skipped run. -/
theorem groups_skipped {high low : List Text} {hs ls : List Nat} (hh : [] ∉ high) (hl : [] ∉ low)
    (hhs : high.mapM parseHextet = some hs) (hls : low.mapM parseHextet = some ls)
    (hlen : high.length + low.length < 8) :
    groups (skipped high low) = some (hs ++ List.replicate (8 - (high.length + low.length)) 0 ++ ls) := by
  have htake : (skipped high low).take high.length = high := by
    cases high <;> simp [skipped]
  have hdrop : ((skipped high low).drop ((skipped high low).length - low.length)).mapM parseHextet = some ls := by
    cases low with
    | nil => simpa using hls
    | cons a low =>
      have he : skipped high (a :: low) =
          ((if high = [] then [[]] else []) ++ high ++ [[]]) ++ (a :: low) := by simp [skipped]
      rw [he, List.length_append, Nat.add_sub_cancel, List.drop_left, hls]
  simp only [groups, partCounts_skipped hh hl hlen, htake, hdrop, hhs]

private theorem groups_plain {parts : List Text} {gs : List Nat} (hp : [] ∉ parts)
    (hgs : parts.mapM parseHextet = some gs) (hlen : parts.length = 8) : groups parts = some gs := by
  have hinner : [] ∉ parts.tail.dropLast := fun h =>
    hp (List.mem_of_mem_tail (List.mem_of_mem_dropLast h))
  have hhead : parts.head? ≠ some [] := fun h => hp (List.mem_of_head? h)
  have hlast : parts.getLast? ≠ some [] := fun h => hp (List.mem_of_getLast? h)
  have hcounts : partCounts parts = some (8, 0, 0) := by
    simp only [partCounts, skipIndex, List.count_eq_zero_of_not_mem hinner]
    rw [if_pos ⟨hlen, hhead, hlast⟩]
  simp only [groups, hcounts]
  rw [List.take_of_length_le hlen.le, hgs]
  simp

private theorem replicate_zero_mapM (k : Nat) :
    (List.replicate k ['0']).mapM parseHextet = some (List.replicate k 0) := by
  induction k with
  | zero => rfl
  | succ k ih =>
    rw [List.replicate_succ, List.mapM_cons, ih]
    rfl

private theorem hextet_char {ip : Fin (2 ^ 128)} {hextet : Text} {c : Char}
    (hm : hextet ∈ (bigEndian 65536 8 ip).map (Nat.toDigits 16)) (hc : c ∈ hextet) :
    isHexDigit c = true := by
  obtain ⟨n, _, rfl⟩ := List.mem_map.mp hm
  exact isHexDigit_of_mem_toDigits (by decide) (by decide) hc

/-- What reading the written parts needs: the count, that they are not split
further, and the groups they stand for. -/
private structure Written (parts : List Text) (ip : Fin (2 ^ 128)) : Prop where
  atLeast : 3 ≤ parts.length
  atMost : parts.length ≤ 9
  chars : ∀ part ∈ parts, ∀ c ∈ part, isHexDigit c = true
  reads : groups parts = some (bigEndian 65536 8 ip)

private theorem written (ip : Fin (2 ^ 128)) :
    Written (compressHextets ((bigEndian 65536 8 ip).map (Nat.toDigits 16))) ip := by
  have hreads : ((bigEndian 65536 8 ip).map (Nat.toDigits 16)).mapM parseHextet =
      some (bigEndian 65536 8 ip) :=
    mapM_map_some fun n hn => parseHextet_toDigits (mem_bigEndian (by decide) hn)
  have hchars := fun hextet hm c => @hextet_char ip hextet c hm
  have hne : [] ∉ (bigEndian 65536 8 ip).map (Nat.toDigits 16) := by simp
  have hlen : ((bigEndian 65536 8 ip).map (Nat.toDigits 16)).length = 8 := by simp
  rcases compressHextets_cases ((bigEndian 65536 8 ip).map (Nat.toDigits 16)) with he | ⟨high, low, k, hk, hsplit, he⟩
  · rw [he]
    exact ⟨by omega, by omega, hchars, groups_plain hne hreads hlen⟩
  · rw [he]
    rw [hsplit] at hreads hchars hne hlen
    have hsize : high.length + (k + low.length) = 8 := by simpa using hlen
    obtain ⟨front, ls, hfront, hls, hall⟩ := mapM_append_some hreads
    obtain ⟨hs, zs, hhs, hzs, rfl⟩ := mapM_append_some hfront
    rw [replicate_zero_mapM, Option.some.injEq] at hzs
    subst hzs
    have hlength : (skipped high low).length =
        (if high = [] then 1 else 0) + high.length + 1 + low.length + (if low = [] then 1 else 0) :=
      skipped_length high low
    refine ⟨?_, ?_, ?_, ?_⟩
    · rw [hlength]
      cases high <;> cases low <;> simp <;> omega
    · rw [hlength]
      cases high <;> cases low <;> simp at hsize ⊢ <;> omega
    · intro part hp c hc
      have hmem : part ∈ high ∨ part ∈ low := by
        simp only [skipped, List.mem_append, List.mem_singleton] at hp
        rcases hp with (((hp | hp) | rfl) | hp) | hp
        · split at hp <;> simp at hp
          simp [hp] at hc
        · exact .inl hp
        · simp at hc
        · exact .inr hp
        · split at hp <;> simp at hp
          simp [hp] at hc
      exact hchars part (by rcases hmem with hm | hm <;> simp [hm]) c hc
    · rw [groups_skipped (fun h => hne (by simp [h])) (fun h => hne (by simp [h])) hhs hls (by omega), hall,
        show 8 - (high.length + low.length) = k by omega]

private theorem joined_char {parts : List Text} {ip : Fin (2 ^ 128)} (hw : Written parts ip) {c : Char}
    (hc : c ∈ [':'].intercalate parts) : c = ':' ∨ isHexDigit c = true :=
  (mem_joined hc).imp_right fun ⟨part, hp, hc⟩ => hw.chars part hp c hc

private theorem ipIntFromString_written {parts : List Text} {ip : Fin (2 ^ 128)} (hw : Written parts ip) :
    ipIntFromString ([':'].intercalate parts) = some ip := by
  have hsplit : ([':'].intercalate parts).splitOn ':' = parts := by
    apply List.splitOn_intercalate
    · exact fun part hp hc => absurd (hw.chars part hp ':' hc) (by decide)
    · exact List.ne_nil_of_length_pos (by have := hw.atLeast; omega)
  have hsuffix : expandIPv4Suffix parts = some parts := by
    rw [expandIPv4Suffix]
    refine if_neg fun hdot => ?_
    cases hl : parts.getLast? with
    | none => simp [hl] at hdot
    | some last =>
      rw [hl] at hdot
      exact absurd (hw.chars last (List.mem_of_getLast? hl) '.' hdot) (by decide)
  have hmin := hw.atLeast
  have hmax := hw.atMost
  simp only [ipIntFromString, hsplit, hsuffix, if_neg (show ¬ parts.length < 3 by omega),
    Option.bind_some, if_neg (show ¬ 9 < parts.length by omega), hw.reads]
  rw [ofBigEndian_bigEndian (lt_of_lt_of_eq ip.isLt (by norm_num)), addressInt_val]

private theorem splitScopeId_str {addr : Text} (ha : '%' ∉ addr) (scopeId : Option ScopeId) :
    splitScopeId (addr ++ scopeSuffix scopeId) = some (addr, scopeId) := by
  have hall : ∀ c ∈ addr, (decide (c ≠ '%')) = true := fun c hc => by
    simpa using fun he : c = '%' => ha (he ▸ hc)
  cases scopeId with
  | none =>
    have hdrop : addr.dropWhile (· ≠ '%') = [] := List.dropWhile_eq_nil_iff.mpr hall
    rw [scopeSuffix, List.append_nil]
    simp only [splitScopeId, hdrop]
  | some scope =>
    have hdrop : (addr ++ '%' :: scope.text).dropWhile (· ≠ '%') = '%' :: scope.text := by
      rw [List.dropWhile_append_of_pos hall]
      simp
    have htake : (addr ++ '%' :: scope.text).takeWhile (· ≠ '%') = addr := by
      rw [List.takeWhile_append_of_pos hall]
      simp
    simp only [scopeSuffix, splitScopeId, hdrop, htake]
    rw [dif_pos ⟨scope.nonempty, scope.noPercent, scope.noSlash⟩]

theorem ofText_str (a : IPv6Address) : ofText a.str = some a := by
  have hw := written a.ip
  have hslash : '/' ∉ a.str := by
    intro hc
    rcases List.mem_append.mp hc with hc | hc
    · exact (joined_char hw hc).elim (by decide) (by decide)
    · cases hs : a.scopeId with
      | none => simp [hs, scopeSuffix] at hc
      | some scope =>
        rw [hs, scopeSuffix] at hc
        rcases List.mem_cons.mp hc with hc | hc
        · exact absurd hc (by decide)
        · exact scope.noSlash hc
  have hpercent : '%' ∉ [':'].intercalate (compressHextets ((bigEndian 65536 8 a.ip).map (Nat.toDigits 16))) :=
    fun hc => (joined_char hw hc).elim (by decide) (by decide)
  rw [ofText, if_neg hslash, str, splitScopeId_str hpercent a.scopeId, Option.bind_some]
  dsimp only
  rw [ipIntFromString_written hw]
  rfl

theorem colon_mem_str (a : IPv6Address) : ':' ∈ a.str := by
  have := (written a.ip).atLeast
  exact List.mem_append_left _ (sep_mem_joined (by omega))

/-- Zone characters aside, the text of an IPv6 address is hexadecimal. -/
theorem str_percent (a : IPv6Address) : '%' ∈ a.str ↔ a.scopeId ≠ none := by
  have hpercent : '%' ∉ [':'].intercalate (compressHextets ((bigEndian 65536 8 a.ip).map (Nat.toDigits 16))) :=
    fun hc => (joined_char (written a.ip) hc).elim (by decide) (by decide)
  rw [str, List.mem_append, or_iff_right hpercent]
  cases a.scopeId <;> simp [scopeSuffix]

end IPv6Address

/-- The constructors undo the text form, zone included. -/
theorem ipAddress_str (a : IPAddress) : ipAddress a.str = some a := by
  cases a with
  | v4 a => simp only [ipAddress, IPAddress.str, a.ofText_str]
  | v6 a =>
    have h4 : IPv4Address.ofText a.str = none := by
      cases h : IPv4Address.ofText a.str with
      | none => rfl
      | some b => exact absurd (IPv4Address.ofText_chars h ':' a.colon_mem_str) (by decide)
    simp only [ipAddress, IPAddress.str, h4, a.ofText_str, Option.map_some]

/-- No address has two texts and no text has two addresses. -/
theorem IPAddress.str_injective : Function.Injective IPAddress.str := by
  intro a b h
  have ha := ipAddress_str a
  rw [h, ipAddress_str b] at ha
  exact (Option.some.inj ha).symm

theorem IPAddress.str_percent (a : IPAddress) : '%' ∈ a.str ↔ a.scopeId ≠ none := by
  cases a with
  | v4 a =>
    refine iff_of_false (fun hc => ?_) (by simp [scopeId])
    exact (IPv4Address.str_chars hc).elim (by decide) (by decide)
  | v6 a => exact a.str_percent

end IpCountryApi.Domain
