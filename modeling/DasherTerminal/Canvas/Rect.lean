/-!
# Rectangles
-/

namespace DasherTerminal

structure Rect where
  x : Nat
  y : Nat
  width : Nat
  height : Nat
  deriving DecidableEq, Repr

namespace Rect

/-- The largest coordinate of a device. -/
def limit : Nat := 65535

/-- A rectangle that is cut where coordinates end. -/
def fit (x y width height : Nat) : Rect := ⟨x, y, min width (limit - x), min height (limit - y)⟩

def right (r : Rect) : Nat := r.x + r.width

/-- The first row below the rectangle. -/
def bottom (r : Rect) : Nat := r.y + r.height

def isEmpty (r : Rect) : Bool := r.width == 0 || r.height == 0

def positions (r : Rect) : List (Nat × Nat) :=
  (List.range r.height).flatMap fun j => (List.range r.width).map fun i => (r.x + i, r.y + j)

def inter (r s : Rect) : Rect :=
  let x := max r.x s.x
  let y := max r.y s.y
  ⟨x, y, min r.right s.right - x, min r.bottom s.bottom - y⟩

def inner (r : Rect) : Rect :=
  ⟨min (r.x + 1) r.right, min (r.y + 1) r.bottom, r.width - 2, r.height - 2⟩

/-- A rectangle of the given size, or as near to it as there is room, in the
middle of another. -/
def centered (width height : Nat) (r : Rect) : Rect :=
  ⟨r.x + (r.width - width) / 2, r.y + (r.height - height) / 2, min width r.width,
    min height r.height⟩

theorem mem_positions {r : Rect} {x y : Nat} :
    (x, y) ∈ r.positions ↔ (r.x ≤ x ∧ x < r.right) ∧ r.y ≤ y ∧ y < r.bottom := by
  simp only [positions, List.mem_flatMap, List.mem_range, List.mem_map, Prod.mk.injEq, right,
    bottom]
  constructor
  · rintro ⟨j, hj, i, hi, rfl, rfl⟩
    omega
  · rintro ⟨⟨_, _⟩, _, _⟩
    exact ⟨y - r.y, by omega, x - r.x, by omega, by omega, by omega⟩

end Rect

end DasherTerminal
