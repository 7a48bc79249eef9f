import IpCountryApi.Domain.AddressText

/-! Python's numbers as far as the validation script compares them: the float of a text, which may
be a ValueError, and the numbers of JSON. -/
namespace IpCountryApi.Domain

/-- The value of an int or a float, in multiples of the smallest float, 2 to the -1074. -/
inductive PyNumber where
  | finite (multiple : Int)
  | infinite (negative : Bool)
  | nan
  deriving DecidableEq, Repr

namespace PyNumber

def ofInt (n : Int) : PyNumber := .finite (n * 2 ^ 1074)

def isFinite : PyNumber → Bool
  | .finite _ => true
  | _ => false

/-- The order of numbers; a comparison with NaN is false. -/
def lt : PyNumber → PyNumber → Bool
  | .finite m, .finite n => m < n
  | .finite _, .infinite negative => !negative
  | .infinite negative, .finite _ => negative
  | .infinite negative, .infinite negative' => negative && !negative'
  | _, _ => false

end PyNumber

/-- The zeros of the decimal digits of Unicode; the other digits follow each of them. -/
def decimalZeros : List Nat :=
  [0x30, 0x660, 0x6f0, 0x7c0, 0x966, 0x9e6, 0xa66, 0xae6, 0xb66, 0xbe6, 0xc66, 0xce6, 0xd66, 0xde6, 0xe50, 0xed0, 0xf20, 0x1040,
    0x1090, 0x17e0, 0x1810, 0x1946, 0x19d0, 0x1a80, 0x1a90, 0x1b50, 0x1bb0, 0x1c40, 0x1c50, 0xa620, 0xa8d0, 0xa900, 0xa9d0,
    0xa9f0, 0xaa50, 0xabf0, 0xff10, 0x104a0, 0x10d30, 0x11066, 0x110f0, 0x11136, 0x111d0, 0x112f0, 0x11450, 0x114d0, 0x11650,
    0x116c0, 0x11730, 0x118e0, 0x11950, 0x11c50, 0x11d50, 0x11da0, 0x11f50, 0x16a60, 0x16ac0, 0x16b50, 0x1d7ce, 0x1d7d8,
    0x1d7e2, 0x1d7ec, 0x1d7f6, 0x1e140, 0x1e2f0, 0x1e4f0, 0x1e950, 0x1fbf0]

def decimal? (c : Char) : Option Nat :=
  (decimalZeros.find? fun z => z ≤ c.toNat && c.toNat < z + 10).map fun z => c.toNat - z

def isDecimal (c : Char) : Bool := (decimal? c).isSome

def decimalNumeral (s : List Char) : Nat := s.foldl (fun n c => 10 * n + (decimal? c).getD 0) 0

/-- What float strips: all space but the separators of ASCII. -/
def isFloatSpace (c : Char) : Bool := isSpace c && !(28 ≤ c.toNat && c.toNat < 32)

/-- Underscores are left out between digits, and refused elsewhere. -/
def withoutUnderscores : Bool → List Char → Option (List Char)
  | _, [] => some []
  | true, '_' :: c :: rest => if isDecimal c then (withoutUnderscores true rest).map (c :: ·) else none
  | _, c :: rest => if c = '_' then none else (withoutUnderscores (isDecimal c) rest).map (c :: ·)

def unsigned : List Char → List Char
  | '+' :: s | '-' :: s => s
  | s => s

def negative (s : List Char) : Bool := s.head? = some '-'

/-- The exponent part behind its letter. -/
def exponent? (s : List Char) : Option Int :=
  let digits := unsigned s
  if digits.isEmpty || !digits.all isDecimal then none
  else some (if negative s then -(decimalNumeral digits : Int) else decimalNumeral digits)

/-- The nearest integer to a quotient, of two the even one. -/
def roundHalfEven (n d : Nat) : Nat :=
  if 2 * (n % d) < d then n / d
  else if d < 2 * (n % d) then n / d + 1
  else n / d + n / d % 2

/-- The float nearest to m tens to the e: a multiple of the smallest float with 53 bits. -/
def nearest (isNegative : Bool) (m : Nat) (e : Int) : PyNumber :=
  let n := m * 10 ^ e.toNat * 2 ^ 1074
  let d := 10 ^ (-e).toNat
  let unit := 2 ^ ((n / d).log2 + 1 - 53)
  let multiple := roundHalfEven n (d * unit) * unit
  if 2 ^ (1024 + 1074) ≤ multiple then .infinite isNegative else .finite (if isNegative then -multiple else multiple)

def float (text : List Char) : Option PyNumber := do
  let s ← withoutUnderscores false ((text.dropWhile isFloatSpace).rdropWhile isFloatSpace)
  let isNegative := negative s
  let s := unsigned s
  if ["inf", "infinity"].contains (String.ofList (s.map Char.toLower)) then return .infinite isNegative
  if String.ofList (s.map Char.toLower) = "nan" then return .nan
  let (whole, s) := s.span isDecimal
  let (fraction, s) := match s with
    | '.' :: s => s.span isDecimal
    | s => ([], s)
  if whole.isEmpty && fraction.isEmpty then none
  let e ← match s with
    | [] => some 0
    | c :: s => if c = 'e' ∨ c = 'E' then exponent? s else none
  return nearest isNegative (decimalNumeral (whole ++ fraction)) (e - fraction.length)

/-- The number that a JSON literal writes: an int of any size, or a float. -/
def jsonNumber (literal : List Char) : PyNumber :=
  if (unsigned literal).all Char.isDigit then
    .ofInt (if negative literal then -(decimalNumeral (unsigned literal) : Int) else decimalNumeral (unsigned literal))
  else (float literal).getD .nan

example : ["0.000", "1e-400", " -7_5.5E+1 ", "1e400", "-inf", "NaN", "1_.5", ".", ""].map (fun s => float s.toList) =
    [some (.finite 0), some (.finite 0), some (.ofInt (-755)), some (.infinite false), some (.infinite true), some .nan, none, none,
      none] := by decide +kernel

/-- One tenth is not a float, and neither is the odd number after 2 to the 53. -/
example : jsonNumber "0.1".toList = jsonNumber "0.1000000000000000055511151231257827".toList ∧
    jsonNumber "9007199254740993".toList ≠ jsonNumber "9007199254740993.0".toList := by decide +kernel

end IpCountryApi.Domain
