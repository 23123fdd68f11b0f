import DasherTerminal.Canvas.Rect

/-!
# The layout of the window

The legends of the function keys at the top, the screen below them, and one
status line at the bottom. When there is little room the status line comes
first, then the legends.
-/

namespace DasherTerminal.View

structure Layout where
  legends : Rect
  screen : Rect
  status : Rect
  deriving DecidableEq, Repr

def layout (area : Rect) (strip : Nat) : Layout :=
  let last := min 1 area.height
  let top := min strip (area.height - last)
  { legends := { area with height := top }
    screen := { area with y := area.y + top, height := area.height - last - top }
    status := { area with y := area.y + (area.height - last), height := last } }

/-- The three columns of an area. Their borders are at thirds of the width,
rounded to the nearest column. -/
def thirds (area : Rect) : Rect × Rect × Rect :=
  let a := (2 * area.width + 3) / 6
  let b := (4 * area.width + 3) / 6
  ({ area with width := a }, { area with x := area.x + a, width := b - a },
    { area with x := area.x + b, width := area.width - b })

/-- The parts of the window share out its rows. -/
theorem layout_heights (area : Rect) (strip : Nat) :
    (layout area strip).legends.height + (layout area strip).screen.height +
      (layout area strip).status.height = area.height := by
  simp only [layout]
  omega

end DasherTerminal.View
