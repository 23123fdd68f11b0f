import DasherTerminal.Canvas.Paragraph

/-!
# Frames

A line around an area, with titles in its top and bottom edge. A title has the
room between the corners; one that is too long for a centred place is cut at
its left end.
-/

namespace DasherTerminal

structure Corners where
  topLeft : Char
  topRight : Char
  bottomLeft : Char
  bottomRight : Char
  deriving DecidableEq, Repr

def Corners.plain : Corners := ⟨'┌', '┐', '└', '┘'⟩

def Corners.rounded : Corners := ⟨'╭', '╮', '╰', '╯'⟩

namespace Canvas

def fill (c : Canvas) (area : Rect) (symbol : Char) (style : Style) : Canvas :=
  c.modifyAll area (·.write [symbol] style)

inductive TitlePlace where
  | topLeft
  | topCenter
  | bottomCenter
  deriving DecidableEq, Repr

/-- The room for a title: the part of the edge that is between the corners. -/
def titleRoom (area : Rect) : TitlePlace → Rect
  | .topLeft | .topCenter => ⟨area.x + 1, area.y, area.width - 2, 1⟩
  | .bottomCenter => ⟨area.x + 1, area.bottom - 1, area.width - 2, 1⟩

/-- Draw a title in the middle of its room. The end of a title that is too
long is drawn, in what is left of the room after the cut. -/
def centeredTitle (c : Canvas) (room : Rect) (title : Span) : Canvas :=
  let n := title.text.length
  if n ≤ room.width then
    c.paragraph { room with x := room.x + (room.width - n) / 2, width := n } [[title]]
  else
    let cut := (n - room.width) / 2
    let width := room.width - cut
    if cut = 0 then c.paragraph room [[title]]
    else c.paragraph { room with width } [[{ title with text := title.text.drop (n - width) }]]

def title (c : Canvas) (area : Rect) (place : TitlePlace) (title : Span) : Canvas :=
  match place with
  | .topLeft => c.paragraph (titleRoom area place) [[title]]
  | .topCenter | .bottomCenter => c.centeredTitle (titleRoom area place) title

def edges (c : Canvas) (area : Rect) (corners : Corners) (style : Style) : Canvas :=
  let right := area.right - 1
  let bottom := area.bottom - 1
  (((((((c.fill
    ⟨area.x, area.y + 1, 1, area.height - 2⟩ '│' style).fill
    ⟨area.x + 1, area.y, area.width - 2, 1⟩ '─' style).fill
    ⟨right, area.y + 1, 1, area.height - 2⟩ '│' style).fill
    ⟨area.x + 1, bottom, area.width - 2, 1⟩ '─' style).write
    right bottom [corners.bottomRight] style).write
    right area.y [corners.topRight] style).write
    area.x bottom [corners.bottomLeft] style).write
    area.x area.y [corners.topLeft] style

/-- Draw a frame with its titles. A frame that reaches beyond the canvas is
drawn around the part of its area that is on the canvas. -/
def frame (c : Canvas) (area : Rect) (corners : Corners) (background : Color) (style : Style)
    (titles : List (TitlePlace × Span)) : Canvas :=
  let area := area.inter c.area
  if area.isEmpty then c
  else
    titles.foldl (fun c (place, text) => c.title area place text)
      ((c.restyle area (Style.keep.withBg background)).edges area corners style)

end Canvas

end DasherTerminal
