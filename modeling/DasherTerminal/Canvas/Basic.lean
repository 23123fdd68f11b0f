import DasherTerminal.Canvas.Rect
import DasherTerminal.Canvas.Style
import DasherTerminal.Screen.Grid
import DasherTerminal.Text.Width

/-!
# The canvas

Everything the user sees is drawn on a canvas: a grid of glyphs and the place
of the device's cursor. A glyph two columns wide covers the position to its
right, so what stands there is not shown.
-/

namespace DasherTerminal

/-- What stands at one position of a canvas. -/
structure Glyph where
  symbol : List Char
  fg : Color
  bg : Color
  modifiers : Modifiers
  deriving DecidableEq, Repr

namespace Glyph

def blank : Glyph := ⟨[' '], .reset, .reset, .none⟩

instance : Inhabited Glyph := ⟨blank⟩

def restyle (g : Glyph) (style : Style) : Glyph :=
  { g with
    fg := style.fg.getD g.fg
    bg := style.bg.getD g.bg
    modifiers := g.modifiers.union style.add }

def write (g : Glyph) (symbol : List Char) (style : Style) : Glyph :=
  { g with symbol }.restyle style

end Glyph

structure Canvas where
  area : Rect
  glyphs : Grid Glyph
  /-- Column and row of the device's cursor, if it is shown. -/
  cursor : Option (Nat × Nat)
  deriving DecidableEq, Repr

namespace Canvas

def empty (width height : Nat) : Canvas :=
  ⟨⟨0, 0, width, height⟩, .replicate width height .blank, none⟩

def get? (c : Canvas) (x y : Nat) : Option Glyph := c.glyphs.get? x y

/-- Change the glyph at a position; positions off the canvas are ignored. -/
def modify (c : Canvas) (x y : Nat) (f : Glyph → Glyph) : Canvas :=
  { c with glyphs := c.glyphs.modify x y f }

def write (c : Canvas) (x y : Nat) (symbol : List Char) (style : Style) : Canvas :=
  c.modify x y (·.write symbol style)

def modifyAll (c : Canvas) (area : Rect) (f : Glyph → Glyph) : Canvas :=
  (area.inter c.area).positions.foldl (fun c (x, y) => c.modify x y f) c

def restyle (c : Canvas) (area : Rect) (style : Style) : Canvas :=
  c.modifyAll area (·.restyle style)

def clear (c : Canvas) (area : Rect) : Canvas := c.modifyAll area fun _ => .blank

def showCursor (c : Canvas) (x y : Nat) : Canvas := { c with cursor := some (x, y) }

/-- Blank what wide glyphs cover, going from left to right, when the next
`covered` positions are covered. -/
def uncovered (covered : Nat) : List Glyph → List Glyph
  | [] => []
  | g :: rest =>
    if 0 < covered then .blank :: uncovered (covered - 1) rest
    else g :: uncovered (Text.clusterWidth g.symbol - 1) rest

def shown (c : Canvas) : List (List Glyph) :=
  c.glyphs.rows.toList.map fun r => uncovered 0 r.toList

end Canvas

end DasherTerminal
