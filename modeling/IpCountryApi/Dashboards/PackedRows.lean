import IpCountryApi.Dashboards.Layout

/-! What the layout of a dashboard keeps: panels in order, numbered, and apart. -/
namespace IpCountryApi.Dashboards
open Library Layout

variable {φ : Type}

def Heap.rect (self : Heap φ) (r : Ref) : Rect := (self.cells r).gridPos

/-- The sizes the strips can hold. -/
structure Sized (heap : Heap φ) (r : Ref) : Prop where
  width : 1 ≤ (heap.rect r).w
  narrow : (heap.rect r).w ≤ 24
  height : 1 ≤ (heap.rect r).h

instance (heap : Heap φ) (r : Ref) : Decidable (Sized heap r) :=
  decidable_of_iff (1 ≤ (heap.rect r).w ∧ (heap.rect r).w ≤ 24 ∧ 1 ≤ (heap.rect r).h)
    ⟨fun ⟨hwidth, hnarrow, hheight⟩ => ⟨hwidth, hnarrow, hheight⟩, fun h => ⟨h.width, h.narrow, h.height⟩⟩

/-- What no step changes in the objects there are. -/
structure Keeps (before after : Heap φ) : Prop where
  grown : before.next ≤ after.next
  entries : ∀ r < before.next, (after.cells r).entries = (before.cells r).entries
  sizes : ∀ r < before.next, (after.rect r).w = (before.rect r).w ∧ (after.rect r).h = (before.rect r).h

/-- The ids that n panels get. -/
def numbers (n : Nat) : List (Option Int) := (List.range n).map fun i : Nat => some ((i : Int) + 1)

theorem numbers_succ (n : Nat) : numbers (n + 1) = numbers n ++ [some ((n : Int) + 1)] := by
  rw [numbers, List.range_succ, List.map_append, List.map_singleton, numbers]

/-- The state of a row in the middle of its loop. -/
structure Packed (p : Packing φ) : Prop where
  shelved : Shelved 24 (p.layout.panels.map p.heap.rect) p.layout.y p.x p.rowHeight
  ids : p.layout.panels.map (fun r => (p.heap.cells r).id) = numbers p.layout.panels.length
  numbered : p.layout.panelId = p.layout.panels.length + 1
  known : ∀ r ∈ p.layout.panels, r < p.heap.next
  once : p.layout.panels.Nodup

theorem Keeps.refl (heap : Heap φ) : Keeps heap heap := ⟨le_rfl, fun _ _ => rfl, fun _ _ => ⟨rfl, rfl⟩⟩

theorem Keeps.trans {a b c : Heap φ} (hab : Keeps a b) (hbc : Keeps b c) : Keeps a c where
  grown := hab.grown.trans hbc.grown
  entries r hr := (hbc.entries r (hr.trans_le hab.grown)).trans (hab.entries r hr)
  sizes r hr := by
    obtain ⟨hw, hh⟩ := hbc.sizes r (hr.trans_le hab.grown)
    obtain ⟨hw', hh'⟩ := hab.sizes r hr
    exact ⟨hw.trans hw', hh.trans hh'⟩

theorem Sized.kept {before after : Heap φ} {r : Ref} (h : Sized before r) (hk : Keeps before after) (hr : r < before.next) :
    Sized after r := by
  obtain ⟨hw, hh⟩ := hk.sizes r hr
  exact ⟨hw ▸ h.width, hw ▸ h.narrow, hh ▸ h.height⟩

theorem Heap.alloc_keeps (heap : Heap φ) (p : Panel φ) : Keeps heap (heap.alloc p) where
  grown := Nat.le_succ heap.next
  entries r hr := by rw [alloc_of_ne hr.ne]
  sizes r hr := by
    rw [Heap.rect, alloc_of_ne hr.ne]
    exact ⟨rfl, rfl⟩

/-- Writing an id and a position. -/
theorem Heap.modify_keeps (heap : Heap φ) (r : Ref) (id : Option Int) (x y : Int) :
    Keeps heap (heap.modify r fun p => { p with id := id, gridPos := { p.gridPos with x := x, y := y } }) where
  grown := le_rfl
  entries s _ := by
    by_cases hs : s = r
    · rw [hs, modify_self]
    · rw [modify_of_ne hs]
  sizes s _ := by
    by_cases hs : s = r
    · rw [hs, Heap.rect, modify_self]
      exact ⟨rfl, rfl⟩
    · rw [Heap.rect, modify_of_ne hs]
      exact ⟨rfl, rfl⟩

/-- One more object behind those placed: the others are as they were. -/
theorem Packed.append {p : Packing φ} (h : Packed p) {heap : Heap φ} {r : Ref} {x rowHeight : Int}
    (hshelved : Shelved 24 (p.layout.panels.map p.heap.rect ++ [heap.rect r]) p.layout.y x rowHeight)
    (hid : (heap.cells r).id = some p.layout.panelId) (hsame : ∀ s ∈ p.layout.panels, heap.cells s = p.heap.cells s)
    (hgrown : p.heap.next ≤ heap.next) (hr : r < heap.next) (hnew : r ∉ p.layout.panels) :
    Packed ⟨heap, ⟨p.layout.panels ++ [r], p.layout.y, p.layout.panelId + 1⟩, x, rowHeight⟩ where
  shelved := by
    have hmap : p.layout.panels.map heap.rect = p.layout.panels.map p.heap.rect :=
      List.map_congr_left fun s hs => congrArg Panel.gridPos (hsame s hs)
    rw [List.map_append, hmap]
    exact hshelved
  ids := by
    have hmap : p.layout.panels.map (fun s => (heap.cells s).id) = p.layout.panels.map (fun s => (p.heap.cells s).id) :=
      List.map_congr_left fun s hs => congrArg Panel.id (hsame s hs)
    rw [List.map_append, hmap, h.ids, List.length_append, List.length_singleton, numbers_succ, List.map_singleton, hid,
      h.numbered]
  numbered := by
    simp only [List.length_append, List.length_singleton, h.numbered]
    omega
  known s hs := by
    rcases List.mem_append.mp hs with hs | hs
    · exact (h.known s hs).trans_le hgrown
    · rw [List.mem_singleton.mp hs]
      exact hr
  once := List.nodup_append.mpr ⟨h.once, List.nodup_singleton r, fun s hs t ht he =>
    hnew (List.mem_singleton.mp ht ▸ he ▸ hs)⟩

/-- A new strip, when the panel does not fit on the current one. -/
theorem Packed.wrap {p : Packing φ} (h : Packed p) {width : Int} (hw : width ≤ 24) :
    Packed (p.wrap width) ∧ (p.wrap width).x + width ≤ 24 := by
  rw [Packing.wrap]
  split
  · exact ⟨⟨h.shelved.flush, h.ids, h.numbered, h.known, h.once⟩, by simpa using hw⟩
  · rename_i hfits
    exact ⟨h, not_lt.mp hfits⟩

theorem wrap_heap (p : Packing φ) (width : Int) : (p.wrap width).heap = p.heap := by
  rw [Packing.wrap]
  split <;> rfl

theorem wrap_panels (p : Packing φ) (width : Int) : (p.wrap width).layout.panels = p.layout.panels := by
  rw [Packing.wrap]
  split <;> rfl

theorem Packed.put {p : Packing φ} (h : Packed p) {r : Ref} (hr : r < p.heap.next) (hnew : r ∉ p.layout.panels)
    (hsized : Sized p.heap r) (hfits : p.x + (p.heap.rect r).w ≤ 24) :
    Packed (p.put r (p.heap.rect r).w (p.heap.rect r).h) := by
  have hplaced := h.shelved.place (zero_le_one.trans hsized.width) (Int.lt_of_lt_of_le zero_lt_one hsized.height) hfits
  refine h.append ?_ ?_ ?_ le_rfl hr hnew
  · rw [Heap.rect, Heap.modify_self]
    exact hplaced
  · rw [Heap.modify_self]
  · intro s hs
    exact Heap.modify_of_ne fun he => hnew (he ▸ hs)

/-- One turn of the loop. -/
theorem Packed.item {p : Packing φ} (h : Packed p) {r : Ref} (hr : r < p.heap.next) (hnew : r ∉ p.layout.panels)
    (hsized : Sized p.heap r) : Packed (p.item r) ∧ (p.item r).layout.panels = p.layout.panels ++ [r] ∧
    Keeps p.heap (p.item r).heap ∧ (p.item r).heap.next = p.heap.next := by
  obtain ⟨hpacked, hfits⟩ := h.wrap hsized.narrow
  have hheap := wrap_heap p (p.heap.rect r).w
  have hpanels := wrap_panels p (p.heap.rect r).w
  have hitem : p.item r = (p.wrap (p.heap.rect r).w).put r (p.heap.rect r).w (p.heap.rect r).h := rfl
  rw [hitem]
  generalize p.wrap (p.heap.rect r).w = q at *
  rw [← hheap] at hr hsized hfits ⊢
  rw [← hpanels] at hnew ⊢
  exact ⟨hpacked.put hr hnew hsized hfits, rfl, Heap.modify_keeps _ _ _ _ _, rfl⟩

/-- The loop, over panels that are not placed yet. -/
theorem Packed.items {p : Packing φ} (h : Packed p) {items : List Ref} (hdistinct : (p.layout.panels ++ items).Nodup)
    (hsized : ∀ r ∈ items, r < p.heap.next ∧ Sized p.heap r) :
    Packed (items.foldl Packing.item p) ∧ (items.foldl Packing.item p).layout.panels = p.layout.panels ++ items ∧
    Keeps p.heap (items.foldl Packing.item p).heap ∧ (items.foldl Packing.item p).heap.next = p.heap.next := by
  induction items generalizing p with
  | nil => exact ⟨h, (List.append_nil _).symm, .refl _, rfl⟩
  | cons r items ih =>
    have hnew : r ∉ p.layout.panels := fun hr => (List.nodup_append.mp hdistinct).2.2 r hr r (.head items) rfl
    obtain ⟨hr, hsize⟩ := hsized r (.head items)
    obtain ⟨hpacked, hpanels, hkeeps, hnext⟩ := h.item hr hnew hsize
    rw [List.append_cons, ← hpanels] at hdistinct
    obtain ⟨hpacked', hpanels', hkeeps', hnext'⟩ := ih hpacked hdistinct fun s hs => by
      obtain ⟨hlt, hsize⟩ := hsized s (.tail r hs)
      exact ⟨hnext ▸ hlt, hsize.kept hkeeps hlt⟩
    refine ⟨hpacked', ?_, hkeeps.trans hkeeps', hnext'.trans hnext⟩
    rw [List.foldl_cons, hpanels', hpanels, List.append_assoc, List.singleton_append]

/-- Between two rows. -/
abbrev Between (heap : Heap φ) (layout : Layout) : Prop := Packed ⟨heap, layout, 0, 0⟩

/-- The next object is none of those that are placed or will be. -/
theorem Packed.fresh {heap : Heap φ} {layout : Layout} (h : Between heap layout) {items : List Ref}
    (hsized : ∀ r ∈ items, r < heap.next ∧ Sized heap r) : heap.next ∉ layout.panels ++ items := by
  intro hr
  rcases List.mem_append.mp hr with hr | hr
  · exact absurd (h.known _ hr) (lt_irrefl _)
  · exact absurd (hsized _ hr).1 (lt_irrefl _)

/-- The header takes a strip of its own. -/
theorem Packed.header {heap : Heap φ} {layout : Layout} (h : Between heap layout) (title description : String) :
    Packed (layout.header heap title description) := by
  have hnew : heap.next ∉ layout.panels := fun hr => absurd (h.known _ hr) (lt_irrefl _)
  have hplaced := h.shelved.place (w := 24) (h := 1) (by decide) (by decide) le_rfl
  have hrow : Packed ⟨heap.alloc ⟨some layout.panelId, ⟨0, layout.y, 24, 1⟩, .row title description⟩,
      ⟨layout.panels ++ [heap.next], layout.y, layout.panelId + 1⟩, 24, 1⟩ := by
    refine h.append ?_ ?_ ?_ (Nat.le_succ _) (Nat.lt_succ_self _) hnew
    · rw [Heap.rect, Heap.alloc_self]
      exact hplaced
    · rw [Heap.alloc_self]
    · intro s hs
      exact Heap.alloc_of_ne (h.known s hs).ne
  exact ⟨hrow.shelved.flush, hrow.ids, hrow.numbered, hrow.known, hrow.once⟩

/-- One row: its header, then its panels. -/
theorem Packed.row {heap : Heap φ} {layout : Layout} (h : Between heap layout) (title description : String) {items : List Ref}
    (hdistinct : (layout.panels ++ items).Nodup) (hsized : ∀ r ∈ items, r < heap.next ∧ Sized heap r) :
    let built := layout.row heap title description items
    Between built.1 built.2 ∧ built.2.panels = layout.panels ++ heap.next :: items ∧ Keeps heap built.1 ∧
    built.1.next = heap.next + 1 ∧ (built.1.cells heap.next).entries = .row title description := by
  have hkeeps := Heap.alloc_keeps heap ⟨some layout.panelId, ⟨0, layout.y, 24, 1⟩, .row title description⟩
  have hdistinct' : ((layout.header heap title description).layout.panels ++ items).Nodup := by
    rw [Layout.header, List.append_assoc, List.singleton_append, List.nodup_middle]
    exact List.nodup_cons.mpr ⟨h.fresh hsized, hdistinct⟩
  obtain ⟨hpacked, hpanels, hkeeps', hnext⟩ := (h.header title description).items hdistinct' fun r hr => by
    obtain ⟨hlt, hsize⟩ := hsized r hr
    exact ⟨Nat.lt_succ_of_lt hlt, hsize.kept hkeeps hlt⟩
  refine ⟨⟨hpacked.shelved.flush, hpacked.ids, hpacked.numbered, hpacked.known, hpacked.once⟩, ?_,
    hkeeps.trans hkeeps', hnext, ?_⟩
  · rw [Layout.row, Packing.finish]
    exact hpanels.trans (List.append_assoc _ _ _)
  · have hentries := hkeeps'.entries heap.next (Nat.lt_succ_self _)
    rw [Layout.header, Heap.alloc_self] at hentries
    exact hentries

/-- The references of the headers: objects get theirs in order. -/
def headers (next : Ref) (calls : List RowCall) : List (RowCall × Ref) := calls.zipIdx next

/-- Everything that is placed, in the order given. -/
def placed (next : Ref) (calls : List RowCall) : List Ref := (headers next calls).flatMap fun ch => ch.2 :: ch.1.items

/-- The runs. -/
theorem Packed.rows {heap : Heap φ} {layout : Layout} (h : Between heap layout) {calls : List RowCall}
    (hdistinct : (layout.panels ++ calls.flatMap RowCall.items).Nodup)
    (hsized : ∀ r ∈ calls.flatMap RowCall.items, r < heap.next ∧ Sized heap r) :
    let built := calls.foldl (fun built call => built.2.row built.1 call.title call.description call.items) (heap, layout)
    Between built.1 built.2 ∧ built.2.panels = layout.panels ++ placed heap.next calls ∧ Keeps heap built.1 ∧
    ∀ ch ∈ headers heap.next calls, ch.2 < built.1.next ∧ (built.1.cells ch.2).entries = .row ch.1.title ch.1.description := by
  induction calls generalizing heap layout with
  | nil => exact ⟨h, (List.append_nil _).symm, .refl _, by simp [headers]⟩
  | cons call calls ih =>
    rw [List.flatMap_cons] at hdistinct hsized
    have hfirst : (layout.panels ++ call.items).Nodup := by
      rw [← List.append_assoc] at hdistinct
      exact (List.nodup_append.mp hdistinct).1
    obtain ⟨hbetween, hpanels, hkeeps, hnext, hheader⟩ := h.row call.title call.description hfirst fun r hr =>
      hsized r (List.mem_append_left _ hr)
    have hrest : ((layout.row heap call.title call.description call.items).2.panels ++ calls.flatMap RowCall.items).Nodup := by
      rw [hpanels, List.append_assoc, List.cons_append, List.nodup_middle]
      exact List.nodup_cons.mpr ⟨h.fresh hsized, hdistinct⟩
    obtain ⟨hbetween', hpanels', hkeeps', hheaders⟩ := ih hbetween hrest fun r hr => by
      obtain ⟨hlt, hsize⟩ := hsized r (List.mem_append_right _ hr)
      exact ⟨hlt.trans_le hkeeps.grown, hsize.kept hkeeps hlt⟩
    rw [hnext] at hpanels' hheaders
    refine ⟨hbetween', ?_, hkeeps.trans hkeeps', ?_⟩
    · rw [List.foldl_cons, hpanels', hpanels, placed, placed, headers, headers, List.zipIdx_cons, List.flatMap_cons,
        List.append_assoc, List.cons_append]
    · intro ch hch
      rw [headers, List.zipIdx_cons] at hch
      rcases List.mem_cons.mp hch with rfl | hch
      · have hlt : heap.next < (layout.row heap call.title call.description call.items).1.next := by
          rw [hnext]
          exact Nat.lt_succ_self _
        exact ⟨hlt.trans_le hkeeps'.grown, (hkeeps'.entries _ hlt).trans hheader⟩
      · exact hheaders ch hch

/-- What calls of Layout.row make of an empty layout. -/
structure Arranged (before : Heap φ) (calls : List RowCall) (after : Heap φ) (layout : Layout) : Prop where
  order : layout.panels = placed before.next calls
  headers : ∀ ch ∈ headers before.next calls, (after.cells ch.2).entries = .row ch.1.title ch.1.description
  items : ∀ call ∈ calls, ∀ r ∈ call.items, (after.cells r).entries = (before.cells r).entries ∧
    (after.rect r).w = (before.rect r).w ∧ (after.rect r).h = (before.rect r).h
  once : layout.panels.Nodup
  ids : layout.panels.map (fun r => (after.cells r).id) = numbers layout.panels.length
  columns : ∀ r ∈ layout.panels, 0 ≤ (after.rect r).x ∧ (after.rect r).right ≤ 24
  disjoint : layout.panels.Pairwise fun r s => Disjoint (after.rect r).cells (after.rect s).cells
  bottom : if calls = [] then layout.y = 0 else IsGreatest {b | ∃ r ∈ layout.panels, (after.rect r).bottom = b} layout.y

theorem between_init (heap : Heap φ) : Between heap .init := ⟨shelved_nil, rfl, rfl, by simp [init], List.nodup_nil⟩

/-- Rows of any distinct panels that are no wider than a strip are packed in order and apart. -/
theorem rows_arranged {heap : Heap φ} {calls : List RowCall} (hdistinct : (calls.flatMap RowCall.items).Nodup)
    (hknown : ∀ r ∈ calls.flatMap RowCall.items, r < heap.next) (hsized : ∀ r ∈ calls.flatMap RowCall.items, Sized heap r) :
    Arranged heap calls (rows heap calls).1 (rows heap calls).2 := by
  obtain ⟨hbetween, hpanels, hkeeps, hheaders⟩ := (between_init heap).rows hdistinct fun r hr =>
    ⟨hknown r hr, hsized r hr⟩
  have hshelved := hbetween.shelved
  refine ⟨hpanels, fun ch hch => (hheaders ch hch).2, ?_, hbetween.once, hbetween.ids, ?_, ?_, ?_⟩
  · intro call hcall r hr
    have hlt := hknown r (List.mem_flatMap.mpr ⟨call, hcall, hr⟩)
    exact ⟨hkeeps.entries r hlt, hkeeps.sizes r hlt⟩
  · intro r hr
    exact hshelved.inside _ (List.mem_map_of_mem hr)
  · exact (List.pairwise_map.mp hshelved.apart).imp Rect.Before.disjoint
  · split
    · rename_i hnil
      rw [hnil]
      rfl
    · rename_i hne
      have hsome : (rows heap calls).2.panels.map (rows heap calls).1.rect ≠ [] := by
        cases calls with
        | nil => exact absurd rfl hne
        | cons call calls =>
          rw [rows, hpanels]
          simp [placed, headers, List.zipIdx_cons]
      have hgreatest := hshelved.isGreatest hsome
      simp only [List.mem_map, exists_exists_and_eq_and] at hgreatest
      exact hgreatest

/-- Three panels of two heights, the second one too wide for the first strip. -/
def threePanels : Heap Unit := ⟨fun r => if r = 1 then panel () 16 9 else panel () 12 7, 3⟩

theorem rows_arranged_three : Arranged threePanels [⟨"Traffic", "", [0, 1]⟩, ⟨"Errors", "", [2]⟩]
    (rows threePanels [⟨"Traffic", "", [0, 1]⟩, ⟨"Errors", "", [2]⟩]).1
    (rows threePanels [⟨"Traffic", "", [0, 1]⟩, ⟨"Errors", "", [2]⟩]).2 :=
  rows_arranged (by decide) (by decide) (by decide)

end IpCountryApi.Dashboards
