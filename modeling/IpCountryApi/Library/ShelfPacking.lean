import Mathlib.Data.Set.Lattice
import Mathlib.Order.CompletePartialOrder
import Mathlib.Order.Bounds.Basic

/-! Rectangles packed on shelves: from left to right, and below everything when the shelf
is full. -/
namespace IpCountryApi.Library

/-- A rectangle of grid cells, from its upper left one on; y grows downwards. -/
structure Rect where
  x : Int
  y : Int
  w : Int
  h : Int
  deriving DecidableEq, Repr

namespace Rect

def right (r : Rect) : Int := r.x + r.w

def bottom (r : Rect) : Int := r.y + r.h

/-- The cells it covers. -/
def cells (r : Rect) : Set (Int × Int) := {c | r.x ≤ c.1 ∧ c.1 < r.right ∧ r.y ≤ c.2 ∧ c.2 < r.bottom}

/-- The second one lies to the right of the first one, or below it. -/
def Before (r s : Rect) : Prop := r.right ≤ s.x ∨ r.bottom ≤ s.y

theorem Before.disjoint {r s : Rect} (h : Before r s) : Disjoint r.cells s.cells := by
  rw [Set.disjoint_left]
  rintro c ⟨_, hright, _, hbottom⟩ ⟨hleft, _, htop, _⟩
  rcases h with h | h
  · exact absurd (hright.trans_le h) (not_lt.mpr hleft)
  · exact absurd (hbottom.trans_le h) (not_lt.mpr htop)

end Rect

/-- Rectangles on shelves of a width, with the top of the last shelf, how far it is filled, and its height. -/
structure Shelved (width : Int) (rects : List Rect) (y x height : Int) : Prop where
  inside : ∀ r ∈ rects, 0 ≤ r.x ∧ r.right ≤ width
  apart : rects.Pairwise Rect.Before
  filled : ∀ r ∈ rects, r.right ≤ x ∨ r.bottom ≤ y
  above : ∀ r ∈ rects, r.bottom ≤ y + height
  lowest : rects = [] ∧ y = 0 ∧ height = 0 ∨ ∃ r ∈ rects, r.bottom = y + height
  started : 0 ≤ x

variable {width y x height : Int} {rects : List Rect}

theorem shelved_nil : Shelved width [] 0 0 0 where
  inside := by simp
  apart := .nil
  filled := by simp
  above := by simp
  lowest := .inl ⟨rfl, rfl, rfl⟩
  started := le_rfl

/-- The next shelf begins below everything. -/
theorem Shelved.flush (hs : Shelved width rects y x height) : Shelved width rects (y + height) 0 0 where
  inside := hs.inside
  apart := hs.apart
  filled r hr := .inr (hs.above r hr)
  above r hr := by
    rw [Int.add_zero]
    exact hs.above r hr
  lowest := by
    rcases hs.lowest with ⟨hnil, rfl, rfl⟩ | hr
    · exact .inl ⟨hnil, rfl, rfl⟩
    · rw [Int.add_zero]
      exact .inr hr
  started := le_rfl

/-- A rectangle that still fits on the shelf. -/
theorem Shelved.place (hs : Shelved width rects y x height) {w h : Int} (hw : 0 ≤ w) (hh : 0 < h) (hfits : x + w ≤ width) :
    Shelved width (rects ++ [⟨x, y, w, h⟩]) y (x + w) (max height h) where
  inside r hr := by
    rcases List.mem_append.mp hr with hr | hr
    · exact hs.inside r hr
    · rw [List.mem_singleton.mp hr]
      exact ⟨hs.started, hfits⟩
  apart := by
    refine List.pairwise_append.mpr ⟨hs.apart, List.pairwise_singleton _ _, fun r hr s hs' => ?_⟩
    rw [List.mem_singleton.mp hs']
    exact hs.filled r hr
  filled r hr := by
    rcases List.mem_append.mp hr with hr | hr
    · exact (hs.filled r hr).imp_left fun hx => hx.trans (Int.le_add_of_nonneg_right hw)
    · rw [List.mem_singleton.mp hr]
      exact .inl le_rfl
  above r hr := by
    rcases List.mem_append.mp hr with hr | hr
    · exact (hs.above r hr).trans (Int.add_le_add_left (le_max_left height h) y)
    · rw [List.mem_singleton.mp hr]
      exact Int.add_le_add_left (le_max_right height h) y
  lowest := by
    right
    rcases le_total height h with hle | hle
    · rw [max_eq_right hle]
      exact ⟨⟨x, y, w, h⟩, by simp, rfl⟩
    · rw [max_eq_left hle]
      rcases hs.lowest with ⟨_, _, rfl⟩ | ⟨r, hr, hbottom⟩
      · exact absurd hh (not_lt.mpr hle)
      · exact ⟨r, List.mem_append_left _ hr, hbottom⟩
  started := Int.add_nonneg hs.started hw

/-- The edge at which the next shelf would begin is the lowest one there is. -/
theorem Shelved.isGreatest (hs : Shelved width rects y x 0) (hne : rects ≠ []) :
    IsGreatest {b | ∃ r ∈ rects, r.bottom = b} y := by
  constructor
  · rcases hs.lowest with ⟨hnil, _⟩ | ⟨r, hr, hbottom⟩
    · exact absurd hnil hne
    · exact ⟨r, hr, by rw [hbottom, Int.add_zero]⟩
  · rintro _ ⟨r, hr, rfl⟩
    have habove := hs.above r hr
    rwa [Int.add_zero] at habove

end IpCountryApi.Library
