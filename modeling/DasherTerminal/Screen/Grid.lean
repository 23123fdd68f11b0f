/-!
# Grids

A rectangle of values stored row by row. The view of a grid is `get?`; every
operation says what it does to that view and that it keeps the shape.
-/

namespace DasherTerminal

universe u v w

/-- Rows of values, the top row first. -/
structure Grid (α : Type u) where
  rows : Array (Array α)
  deriving DecidableEq, Repr

namespace Grid

variable {α : Type u} {β : Type v} {γ : Type w}

/-- The value in column `x` of row `y`. -/
def get? (g : Grid α) (x y : Nat) : Option α := g.rows[y]?.bind (·[x]?)

def HasShape (g : Grid α) (width height : Nat) : Prop :=
  g.rows.size = height ∧ ∀ row ∈ g.rows, row.size = width

def replicate (width height : Nat) (a : α) : Grid α :=
  ⟨Array.replicate height (Array.replicate width a)⟩

/-- Put a value at a position; positions outside the grid are ignored. -/
def set (g : Grid α) (x y : Nat) (a : α) : Grid α :=
  ⟨g.rows.modify y (·.setIfInBounds x a)⟩

def modify (g : Grid α) (x y : Nat) (f : α → α) : Grid α :=
  ⟨g.rows.modify y (·.modify x f)⟩

def fillRight (g : Grid α) (x y : Nat) (a : α) : Grid α :=
  ⟨g.rows.modify y (·.mapIdx fun i old => if x ≤ i then a else old)⟩

/-- Drop the top row and add a row of `width` equal values at the bottom. -/
def shiftUp (g : Grid α) (width : Nat) (a : α) : Grid α :=
  ⟨(g.rows.extract 1).push (Array.replicate width a)⟩

def map (f : α → β) (g : Grid α) : Grid β := ⟨g.rows.map (·.map f)⟩

def zipWith (f : α → β → γ) (g : Grid α) (h : Grid β) : Grid γ :=
  ⟨Array.zipWith (Array.zipWith f) g.rows h.rows⟩

theorem hasShape_replicate (width height : Nat) (a : α) :
    (replicate width height a).HasShape width height := by
  simp [HasShape, replicate]

theorem get?_replicate {width height : Nat} {a : α} {x y : Nat} :
    (replicate width height a).get? x y = if x < width ∧ y < height then some a else none := by
  by_cases hy : y < height <;> by_cases hx : x < width <;>
    simp [replicate, get?, hx, hy]

theorem HasShape.set {g : Grid α} {width height : Nat} (h : g.HasShape width height)
    (x y : Nat) (a : α) : (g.set x y a).HasShape width height := by
  refine ⟨by simpa [Grid.set] using h.1, fun row hr => ?_⟩
  simp only [Grid.set, Array.mem_iff_getElem] at hr
  obtain ⟨i, hi, rfl⟩ := hr
  simp only [Array.size_modify] at hi
  have := h.2 _ (Array.getElem_mem hi)
  rw [Array.getElem_modify]
  split <;> simpa using this

theorem HasShape.fillRight {g : Grid α} {width height : Nat} (h : g.HasShape width height)
    (x y : Nat) (a : α) : (g.fillRight x y a).HasShape width height := by
  refine ⟨by simpa [Grid.fillRight] using h.1, fun row hr => ?_⟩
  simp only [Grid.fillRight, Array.mem_iff_getElem] at hr
  obtain ⟨i, hi, rfl⟩ := hr
  simp only [Array.size_modify] at hi
  have := h.2 _ (Array.getElem_mem hi)
  rw [Array.getElem_modify]
  split <;> simpa using this

theorem HasShape.shiftUp {g : Grid α} {width height : Nat} (h : g.HasShape width height)
    (pos : 0 < height) (a : α) : (g.shiftUp width a).HasShape width height := by
  refine ⟨?_, fun row hr => ?_⟩
  · simp only [Grid.shiftUp, Array.size_push, Array.size_extract, h.1]
    omega
  · simp only [Grid.shiftUp, Array.mem_push] at hr
    rcases hr with hr | rfl
    · obtain ⟨i, hi, rfl⟩ := Array.mem_iff_getElem.1 hr
      rw [Array.getElem_extract]
      exact h.2 _ (Array.getElem_mem _)
    · simp

theorem HasShape.map {g : Grid α} {width height : Nat} (h : g.HasShape width height)
    (f : α → β) : (g.map f).HasShape width height := by
  refine ⟨by simpa [Grid.map] using h.1, fun row hr => ?_⟩
  simp only [Grid.map, Array.mem_map] at hr
  obtain ⟨r, hr, rfl⟩ := hr
  simpa using h.2 r hr

theorem HasShape.get?_isSome {g : Grid α} {width height : Nat} (h : g.HasShape width height)
    {x y : Nat} : (g.get? x y).isSome = (decide (x < width) && decide (y < height)) := by
  by_cases hy : y < height
  · have hy' : y < g.rows.size := by rw [h.1]; exact hy
    have := h.2 _ (Array.getElem_mem hy')
    by_cases hx : x < width <;> simp [get?, hy, hy', hx, this]
  · have hy' : g.rows.size ≤ y := by rw [h.1]; omega
    simp [get?, hy, hy']

theorem get?_set {g : Grid α} {x y : Nat} {a : α} {i j : Nat} :
    (g.set x y a).get? i j =
      if i = x ∧ j = y then (g.get? i j).map fun _ => a else g.get? i j := by
  by_cases hj : j = y
  · subst hj
    cases hr : g.rows[j]? with
    | none => simp [set, get?, Array.getElem?_modify, hr]
    | some row =>
      by_cases hi : i = x
      · subst hi
        by_cases hb : i < row.size <;> simp [set, get?, Array.getElem?_modify, hr, hb]
      · simp [set, get?, Array.getElem?_modify, hr, hi, Ne.symm hi]
  · simp [set, get?, Array.getElem?_modify, hj, Ne.symm hj]

theorem get?_map {g : Grid α} {f : α → β} {x y : Nat} :
    (g.map f).get? x y = (g.get? x y).map f := by
  cases hr : g.rows[y]? <;> simp [map, get?, hr]

end Grid

end DasherTerminal
