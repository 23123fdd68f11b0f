import DasherTerminal.Canvas.Frame
import DasherTerminal.Text.Blank

/-!
# Looking at the history

A window on the lines that scrolled off the screen. Its position is counted in
lines from the newest one.
-/

namespace DasherTerminal.View

structure Scrollback where
  /-- The lines that are not blank, oldest first. -/
  lines : List String
  /-- How many lines the window is away from the newest. -/
  offset : Nat
  deriving DecidableEq, Repr

namespace Scrollback

/-- Whether a line shows anything. -/
def isKept (line : String) : Bool := !line.toList.all Text.isBlank

theorem isKept_iff {line : String} :
    isKept line = true ↔ ∃ c ∈ line.toList, Text.isBlank c = false := by
  simp [isKept]

/-- Open a history at its newest lines, without the blank ones. -/
def ofLines (lines : List String) : Scrollback := ⟨lines.filter isKept, 0⟩

theorem mem_lines_ofLines {lines : List String} {line : String} :
    line ∈ (ofLines lines).lines ↔
      line ∈ lines ∧ ∃ c ∈ line.toList, Text.isBlank c = false := by
  rw [ofLines, List.mem_filter, isKept_iff]

/-- The offset at which the oldest line is the newest in the window. -/
def maxOffset (v : Scrollback) : Nat := v.lines.length - 1

/-- Go `n` lines towards the oldest. -/
def scrollUp (v : Scrollback) (n : Nat) : Scrollback :=
  { v with offset := min (v.offset + n) v.maxOffset }

def scrollDown (v : Scrollback) (n : Nat) : Scrollback := { v with offset := v.offset - n }

def top (v : Scrollback) : Scrollback := { v with offset := v.maxOffset }

def bottom (v : Scrollback) : Scrollback := { v with offset := 0 }

/-- The lines in a window of the given height. The window never reaches past
the oldest line as long as there are lines to fill it. -/
def visible (v : Scrollback) (height : Nat) : List String :=
  let finish := v.lines.length - min v.offset (v.lines.length - height)
  (v.lines.take finish).drop (finish - height)

end Scrollback

def scrollbackStyle : Style := Style.keep.withFg .lightCyan

def scrollbackLines (v : Scrollback) (height : Nat) : List Line :=
  if v.lines.isEmpty then
    [[.styled "No lines have scrolled off the screen yet." Style.keep.dim]]
  else (v.visible height).map fun line => [.styled line (Style.keep.withFg .green)]

def scrollback (v : Scrollback) (area : Rect) (c : Canvas) : Canvas :=
  let c := (c.clear area).frame area .rounded .black scrollbackStyle
    [(.topLeft, .styled s!" HISTORY ({v.lines.length} lines) " scrollbackStyle.bold)]
  let inner := area.inner
  if inner.isEmpty then c
  else
    let height := inner.height - 1
    let c := c.paragraph { inner with height } (scrollbackLines v height)
    c.paragraph { inner with y := inner.y + height, height := 1 }
      [[.styled s!" {v.offset}/{v.maxOffset} " (.colors .black .lightCyan),
        .styled " ↑↓:line PgUp/Dn:page g/G:top/bottom q:exit " (Style.keep.withFg .darkGray)]]

end DasherTerminal.View
