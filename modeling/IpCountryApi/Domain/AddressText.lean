import IpCountryApi.Library.Numerals
import Mathlib.Data.List.DropRight

/-! Address values and their texts, as the ipaddress module of CPython 3.12 reads
and writes them. -/
namespace IpCountryApi.Domain
open Library

abbrev Text := List Char

structure IPv4Address where
  ip : Fin (2 ^ 32)
  deriving DecidableEq

/-- A zone identifier that the IPv6 constructor lets through. -/
structure ScopeId where
  text : Text
  nonempty : text ≠ []
  noPercent : '%' ∉ text
  noSlash : '/' ∉ text
  deriving DecidableEq

structure IPv6Address where
  ip : Fin (2 ^ 128)
  scopeId : Option ScopeId
  deriving DecidableEq

inductive IPAddress where
  | v4 (address : IPv4Address)
  | v6 (address : IPv6Address)
  deriving DecidableEq

/-- An integer as an address; the callers only pass integers in range. -/
def addressInt (m n : Nat) : Option (Fin m) := if h : n < m then some ⟨n, h⟩ else none

def parseOctet (octet : Text) : Option Nat :=
  if octet = [] then none
  else if !octet.all Char.isDigit then none
  else if 3 < octet.length then none
  else if octet ≠ ['0'] ∧ octet.head? = some '0' then none
  else if 255 < numeral 10 octet then none
  else some (numeral 10 octet)

namespace IPv4Address

def ipIntFromString (s : Text) : Option (Fin (2 ^ 32)) :=
  let octets := s.splitOn '.'
  if octets.length = 4 then
    (octets.mapM parseOctet).bind fun bytes => addressInt (2 ^ 32) (ofBigEndian 256 bytes)
  else none

def ofText (s : Text) : Option IPv4Address :=
  if '/' ∈ s then none else (ipIntFromString s).map .mk

def str (a : IPv4Address) : Text :=
  ['.'].intercalate ((bigEndian 256 4 a.ip).map (Nat.toDigits 10))

end IPv4Address

def parseHextet (hextet : Text) : Option Nat :=
  if !hextet.all isHexDigit then none
  else if 4 < hextet.length then none
  else if hextet = [] then none
  else some (numeral 16 hextet)

namespace IPv6Address

/-- A dotted quad in the last part becomes two hextets. -/
def expandIPv4Suffix (parts : List Text) : Option (List Text) :=
  let last := parts.getLast?.getD []
  if '.' ∈ last then
    (IPv4Address.ofText last).map fun a =>
      parts.dropLast ++ [Nat.toDigits 16 (a.ip / 65536), Nat.toDigits 16 (a.ip % 65536)]
  else some parts

/-- The position of the only empty part that is neither first nor last, if any;
two of them are an error. -/
def skipIndex (parts : List Text) : Option (Option Nat) :=
  let inner := parts.tail.dropLast
  match inner.count [] with
  | 0 => some none
  | 1 => some (some (inner.idxOf [] + 1))
  | _ => none

/-- How many parts to copy before the skipped run, after it, and its length. -/
def partCounts (parts : List Text) : Option (Nat × Nat × Nat) :=
  match skipIndex parts with
  | none => none
  | some (some i) =>
    let low := parts.length - i - 1
    let high? := if parts.head? = some [] then (if i - 1 = 0 then some 0 else none) else some i
    let low? := if parts.getLast? = some [] then (if low - 1 = 0 then some 0 else none) else some low
    match high?, low? with
    | some high, some low => if high + low < 8 then some (high, low, 8 - (high + low)) else none
    | _, _ => none
  | some none =>
    if parts.length = 8 ∧ parts.head? ≠ some [] ∧ parts.getLast? ≠ some [] then some (8, 0, 0) else none

/-- The groups a part list writes, skipped zeros included. -/
def groups (parts : List Text) : Option (List Nat) :=
  match partCounts parts with
  | none => none
  | some (high, low, skipped) =>
    match (parts.take high).mapM parseHextet, (parts.drop (parts.length - low)).mapM parseHextet with
    | some hs, some ls => some (hs ++ List.replicate skipped 0 ++ ls)
    | _, _ => none

def ipIntFromString (s : Text) : Option (Fin (2 ^ 128)) :=
  let split := s.splitOn ':'
  if split.length < 3 then none
  else (expandIPv4Suffix split).bind fun parts =>
    if 9 < parts.length then none
    else (groups parts).bind fun gs => addressInt (2 ^ 128) (ofBigEndian 65536 gs)

def splitScopeId (s : Text) : Option (Text × Option ScopeId) :=
  match s.dropWhile (· ≠ '%') with
  | [] => some (s, none)
  | _ :: scope =>
    if h : scope ≠ [] ∧ '%' ∉ scope ∧ '/' ∉ scope then
      some (s.takeWhile (· ≠ '%'), some ⟨scope, h.1, h.2.1, h.2.2⟩)
    else none

def ofText (s : Text) : Option IPv6Address :=
  if '/' ∈ s then none
  else (splitScopeId s).bind fun (addr, scopeId) => (ipIntFromString addr).map fun ip => ⟨ip, scopeId⟩

/-- The longest run of zero hextets seen so far, and the run being read. -/
structure ZeroRun where
  bestStart : Nat
  bestLen : Nat
  start : Option Nat
  len : Nat

def ZeroRun.next (run : ZeroRun) (index : Nat) (hextet : Text) : ZeroRun :=
  if hextet = ['0'] then
    let start := run.start.getD index
    if run.bestLen < run.len + 1 then ⟨start, run.len + 1, some start, run.len + 1⟩
    else { run with start := some start, len := run.len + 1 }
  else { run with start := none, len := 0 }

def ZeroRun.scan (hextets : List Text) : ZeroRun :=
  hextets.zipIdx.foldl (fun run hi => run.next hi.2 hi.1) ⟨0, 0, none, 0⟩

/-- The longest run of at least two zero hextets becomes one empty part, with one
more empty part at an end the run reaches. -/
def compressHextets (hextets : List Text) : List Text :=
  let run := ZeroRun.scan hextets
  let stop := run.bestStart + run.bestLen
  if 1 < run.bestLen then
    (if run.bestStart = 0 then [[]] else []) ++ hextets.take run.bestStart ++ [[]] ++
      hextets.drop stop ++ (if stop = hextets.length then [[]] else [])
  else hextets

def scopeSuffix : Option ScopeId → Text
  | none => []
  | some scope => '%' :: scope.text

def str (a : IPv6Address) : Text :=
  [':'].intercalate (compressHextets ((bigEndian 65536 8 a.ip).map (Nat.toDigits 16))) ++
    scopeSuffix a.scopeId

end IPv6Address

def ipAddress (s : Text) : Option IPAddress :=
  match IPv4Address.ofText s with
  | some a => some (.v4 a)
  | none => (IPv6Address.ofText s).map .v6

namespace IPAddress

def str : IPAddress → Text
  | .v4 a => a.str
  | .v6 a => a.str

def scopeId : IPAddress → Option ScopeId
  | .v4 _ => none
  | .v6 a => a.scopeId

end IPAddress

/-- The whitespace of Python's str.strip. -/
def isSpace (c : Char) : Bool :=
  let n := c.toNat
  (9 ≤ n && n ≤ 13) || (28 ≤ n && n ≤ 32) || n == 0x85 || n == 0xA0 || n == 0x1680 ||
    (0x2000 ≤ n && n ≤ 0x200A) || n == 0x2028 || n == 0x2029 || n == 0x202F || n == 0x205F || n == 0x3000

/-- Both ends of a list without what satisfies the predicate. -/
def stripBy {α : Type} (p : α → Bool) (l : List α) : List α := (l.dropWhile p).rdropWhile p

def strip (s : Text) : Text := stripBy isSpace s

section Strip
variable {α : Type} {p : α → Bool}

private theorem mem_dropWhile_iff {a : α} (ha : p a = false) (l : List α) : a ∈ l.dropWhile p ↔ a ∈ l := by
  refine ⟨fun h => List.dropWhile_subset _ h, fun h => ?_⟩
  rw [← List.takeWhile_append_dropWhile (p := p) (l := l), List.mem_append] at h
  refine h.resolve_left fun h => ?_
  rw [List.mem_takeWhile_imp h] at ha
  cases ha

theorem mem_stripBy_iff {a : α} (ha : p a = false) (l : List α) : a ∈ stripBy p l ↔ a ∈ l := by
  rw [stripBy, List.rdropWhile, List.mem_reverse, mem_dropWhile_iff ha, List.mem_reverse, mem_dropWhile_iff ha]

theorem stripBy_stripBy (p : α → Bool) (l : List α) : stripBy p (stripBy p l) = stripBy p l := by
  have hfront : (stripBy p l).dropWhile p = stripBy p l := by
    rw [List.dropWhile_eq_self_iff]
    intro hl
    have hstart : stripBy p l <+: l.dropWhile p := List.rdropWhile_prefix p (l.dropWhile p)
    rw [hstart.getElem hl]
    exact List.dropWhile_get_zero_not p l (Nat.lt_of_lt_of_le hl hstart.length_le)
  rw [stripBy, hfront, stripBy]
  exact List.rdropWhile_idempotent p (l.dropWhile p)

end Strip

/-- Stripping takes away whitespace only. -/
theorem mem_strip_iff {c : Char} (hc : isSpace c = false) (s : Text) : c ∈ strip s ↔ c ∈ s := mem_stripBy_iff hc s

end IpCountryApi.Domain
