import IpCountryApi.Library.ShelfPacking
import Mathlib.Data.List.Basic
import Mathlib.Data.List.Nodup
import Mathlib.Logic.Function.Basic

/-! The layout of a dashboard: rows of panels, as the script that builds the dashboards
numbers and places them. Panels are objects that the script writes into. -/
namespace IpCountryApi.Dashboards
open Library

/-- What a panel has besides its id and its position; only the headers of rows are built here. -/
inductive Entries (φ : Type) where
  | row (title description : String)
  | panel (entries : φ)

structure Panel (φ : Type) where
  id : Option Int
  gridPos : Rect
  entries : Entries φ

abbrev Ref := Nat

/-- The objects, and the reference the next one gets. -/
structure Heap (φ : Type) where
  cells : Ref → Panel φ
  next : Ref

structure Layout where
  panels : List Ref
  y : Int
  panelId : Int

variable {φ : Type}

def panel (entries : φ) (width height : Int) : Panel φ := ⟨none, ⟨0, 0, width, height⟩, .panel entries⟩

namespace Heap
variable (self : Heap φ)

def alloc (panel : Panel φ) : Heap φ := ⟨Function.update self.cells self.next panel, self.next + 1⟩

def modify (r : Ref) (f : Panel φ → Panel φ) : Heap φ := { self with cells := Function.update self.cells r (f (self.cells r)) }

variable {self} {p : Panel φ} {r s : Ref} {f : Panel φ → Panel φ}

theorem alloc_self : (self.alloc p).cells self.next = p := by simp [alloc]

theorem alloc_of_ne (h : r ≠ self.next) : (self.alloc p).cells r = self.cells r := by simp [alloc, h]

theorem modify_self : (self.modify r f).cells r = f (self.cells r) := by simp [modify]

theorem modify_of_ne (h : s ≠ r) : (self.modify r f).cells s = self.cells s := by simp [modify, h]

end Heap

namespace Layout

/-- Layout(). -/
def init : Layout := ⟨[], 0, 1⟩

/-- The loop of a row: the objects, the layout, and the place on the current strip. -/
structure Packing (φ : Type) where
  heap : Heap φ
  layout : Layout
  x : Int
  rowHeight : Int

def Packing.wrap (self : Packing φ) (width : Int) : Packing φ :=
  if 24 < self.x + width then
    { self with layout := { self.layout with y := self.layout.y + self.rowHeight }, x := 0, rowHeight := 0 }
  else self

def Packing.put (self : Packing φ) (item : Ref) (width height : Int) : Packing φ where
  heap := self.heap.modify item fun p =>
    { p with id := some self.layout.panelId, gridPos := { p.gridPos with x := self.x, y := self.layout.y } }
  layout := ⟨self.layout.panels ++ [item], self.layout.y, self.layout.panelId + 1⟩
  x := self.x + width
  rowHeight := max self.rowHeight height

/-- One turn of the loop. -/
def Packing.item (self : Packing φ) (item : Ref) : Packing φ :=
  let width := (self.heap.cells item).gridPos.w
  let height := (self.heap.cells item).gridPos.h
  (self.wrap width).put item width height

/-- The header, before the loop. -/
def header (heap : Heap φ) (self : Layout) (title description : String) : Packing φ where
  heap := heap.alloc ⟨some self.panelId, ⟨0, self.y, 24, 1⟩, .row title description⟩
  layout := ⟨self.panels ++ [heap.next], self.y + 1, self.panelId + 1⟩
  x := 0
  rowHeight := 0

/-- The layout after the loop. -/
def Packing.finish (self : Packing φ) : Heap φ × Layout :=
  (self.heap, { self.layout with y := self.layout.y + self.rowHeight })

def row (heap : Heap φ) (self : Layout) (title description : String) (items : List Ref) : Heap φ × Layout :=
  (items.foldl Packing.item (self.header heap title description)).finish

end Layout

/-- One call of Layout.row. -/
structure RowCall where
  title : String
  description : String
  items : List Ref

def rows (heap : Heap φ) (calls : List RowCall) : Heap φ × Layout :=
  calls.foldl (fun built call => built.2.row built.1 call.title call.description call.items) (heap, .init)

end IpCountryApi.Dashboards
