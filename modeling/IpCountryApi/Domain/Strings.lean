import IpCountryApi.Domain.AddressText

/-! Python's str. Its code points need not be characters: JSON may write one half of a surrogate
pair without the other, and no encoding takes such a str. -/
namespace IpCountryApi.Domain

inductive CodePoint where
  | scalar (c : Char)
  | surrogate (offset : Fin 2048)
  deriving DecidableEq, Repr

/-- A str with surrogates, divided at the first of them. -/
structure BrokenText where
  before : Text
  surrogate : Fin 2048
  after : List CodePoint
  deriving DecidableEq, Repr

inductive PyStr where
  | text (value : String)
  | broken (value : BrokenText)
  deriving DecidableEq, Repr

instance : Coe String PyStr := ⟨PyStr.text⟩

/-- A surrogate is no whitespace. -/
def CodePoint.isSpace : CodePoint → Bool
  | .scalar c => Domain.isSpace c
  | .surrogate _ => false

def CodePoint.ord : CodePoint → Nat
  | .scalar c => c.toNat
  | .surrogate offset => 0xD800 + offset

namespace PyStr

def points : PyStr → List CodePoint
  | .text value => value.toList.map .scalar
  | .broken value => value.before.map .scalar ++ .surrogate value.surrogate :: value.after

/-- A character in front of a str. -/
def cons (c : Char) : PyStr → PyStr
  | .text value => .text (String.ofList (c :: value.toList))
  | .broken value => .broken { value with before := c :: value.before }

def ofPoints : List CodePoint → PyStr
  | [] => .text ""
  | .scalar c :: rest => (ofPoints rest).cons c
  | .surrogate offset :: rest => .broken ⟨[], offset, rest⟩

def length (self : PyStr) : Nat := self.points.length

/-- str.strip -/
def strip (self : PyStr) : PyStr := ofPoints (stripBy CodePoint.isSpace self.points)

/-- str.encode raises nothing. -/
def encodes : PyStr → Bool
  | .text _ => true
  | .broken _ => false

/-- Comparison of two str by their code points. -/
def lt (self other : PyStr) : Bool :=
  (self.points.map CodePoint.ord).lex (other.points.map CodePoint.ord) fun a b => decide (a < b)

variable {self : PyStr} {points : List CodePoint}

theorem encodes_iff : self.encodes = true ↔ ∃ value : String, self = value := by
  cases self with
  | text value => exact iff_of_true rfl ⟨value, rfl⟩
  | broken => exact iff_of_false Bool.false_ne_true (by rintro ⟨_, ⟨⟩⟩)

@[simp] theorem points_text (value : String) : (text value).points = value.toList.map .scalar := rfl
@[simp] theorem length_text (value : String) : (text value).length = value.toList.length := by
  rw [length, points_text, List.length_map]

@[simp] theorem points_cons (c : Char) (self : PyStr) : (self.cons c).points = .scalar c :: self.points := by
  cases self with
  | text value => rw [cons, points_text, String.toList_ofList, List.map_cons, points_text]
  | broken value => rfl

/-- Every list of code points is a str, and one only. -/
theorem points_ofPoints (points : List CodePoint) : (ofPoints points).points = points := by
  induction points with
  | nil => rfl
  | cons point rest ih =>
    cases point with
    | scalar c => rw [ofPoints, points_cons, ih]
    | surrogate offset => rfl

theorem ofPoints_scalars (value : Text) : ofPoints (value.map .scalar) = .text (String.ofList value) := by
  induction value with
  | nil => rfl
  | cons c rest ih => rw [List.map_cons, ofPoints, ih, cons, String.toList_ofList]

theorem ofPoints_points (self : PyStr) : ofPoints self.points = self := by
  cases self with
  | text value => rw [points_text, ofPoints_scalars, String.ofList_toList]
  | broken value =>
    obtain ⟨before, offset, after⟩ := value
    show ofPoints (before.map .scalar ++ .surrogate offset :: after) = _
    induction before with
    | nil => rfl
    | cons c before ih => rw [List.map_cons, List.cons_append, ofPoints, ih, cons]

theorem length_eq_zero : self.length = 0 ↔ self = .text "" := by
  rw [length, List.length_eq_zero_iff]
  refine ⟨fun h => ?_, fun h => by rw [h]; rfl⟩
  rw [← ofPoints_points self, h, ofPoints]

theorem points_strip (self : PyStr) : self.strip.points = stripBy CodePoint.isSpace self.points := points_ofPoints _

theorem strip_strip (self : PyStr) : self.strip.strip = self.strip := by
  rw [strip, points_strip, stripBy_stripBy]
  rfl

end PyStr
end IpCountryApi.Domain
