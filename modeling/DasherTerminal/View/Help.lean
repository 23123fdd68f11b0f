import DasherTerminal.Canvas.Frame
import DasherTerminal.View.Layout
import DasherTerminal.View.Legends

/-!
# The help page
-/

namespace DasherTerminal.View

structure HelpGroup where
  title : String
  color : Color
  entries : List (String × String)
  deriving DecidableEq, Repr

def hostHelp : HelpGroup :=
  ⟨"HOST", .cyan, [("c", "Connect"), ("R", "Reconnect"), ("d", "Disconnect"),
    ("s", "Send text file"), ("l", "Capture on/off"), ("^]", "Send 035"), ("q", "Quit")]⟩

def terminalHelp : HelpGroup :=
  ⟨"TERMINAL", .green, [("t", "Self-test"), ("e", "Cycle model"), ("b", "Toggle blink"),
    ("r", "Screen size"), ("k", "Key template"), ("h", "History"), ("?", "This help")]⟩

def keyboardHelp : HelpGroup :=
  ⟨"KEYBOARD", .yellow, [("End", "CR"), ("Del", "Erase EOL"), ("PgDn", "Erase page"),
    ("Home", "Home"), ("F1-12", "F1-F12"), ("Alt+F1", "F13 (to F15)")]⟩

def helpLines (g : HelpGroup) : List Line :=
  [.styled ("  " ++ g.title) (Style.keep.withFg g.color).bold] ::
    g.entries.map fun (key, text) =>
      [.raw "  ", ⟨padRight 6 key.toList, (Style.keep.withFg .cyan).bold⟩,
        .styled (" " ++ text) (Style.keep.withFg .white)]

/-- Draw the help page. On a page that is too small only the frame is drawn. -/
def help (area : Rect) (c : Canvas) : Canvas :=
  let c := (c.clear area).frame area .rounded .black (Style.keep.withFg .darkGray)
    [(.topCenter, .styled " Help " (Style.keep.withFg .white).bold),
      (.bottomCenter, .styled " ? / Esc to close " (Style.keep.withFg .darkGray).bold)]
  let inner := area.inner
  if inner.height < 4 ∨ inner.width < 10 then c
  else
    let lead : Span := .styled "  Prefix: Ctrl+]   (then one of the keys below)"
      (Style.keep.withFg .cyan).bold
    let c := c.paragraph { inner with height := 1 } [[lead]]
    let (a, b, d) := thirds { inner with y := inner.y + 2, height := inner.height - 2 }
    ((c.paragraph a (helpLines hostHelp)).paragraph b (helpLines terminalHelp)).paragraph d
      (helpLines keyboardHelp)

end DasherTerminal.View
