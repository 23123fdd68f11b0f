import DasherTerminal.Canvas.Frame
import DasherTerminal.View.TextField

/-!
# Dialogs

A dialog asks for one text. It stands in the middle of the window, with a
prompt and the text in its second line, what went wrong below it, and a hint.
-/

namespace DasherTerminal.View

inductive DialogKind where
  | resize
  | connect
  | sendFile
  | capture
  | template
  deriving DecidableEq, Repr

namespace DialogKind

def title : DialogKind → String
  | .resize => "Screen Size"
  | .connect => "Connect"
  | .sendFile => "Send Text File"
  | .capture => "Capture Host Output"
  | .template => "Function Key Template"

def label : DialogKind → String
  | .resize => "COLSxLINES"
  | .connect => "Host"
  | .sendFile => "Path"
  | .capture => "Log file"
  | .template => "Template"

def verb : DialogKind → String
  | .resize => "Resize"
  | .connect => "Connect"
  | .sendFile => "Send"
  | .capture => "Start"
  | .template => "Load"

end DialogKind

structure Dialog where
  kind : DialogKind
  field : TextField
  error : Option String
  deriving DecidableEq, Repr

namespace Dialog

def ofText (kind : DialogKind) (text : String) : Dialog := ⟨kind, .ofString text, none⟩

def prompt (d : Dialog) : Span := .raw s!"  {d.kind.label}: "

def lines (d : Dialog) : List Line :=
  [[], [d.prompt, ⟨d.field.text, Style.keep.withFg .yellow⟩],
    [.styled ((d.error.map ("  " ++ ·)).getD "") (Style.keep.withFg .lightRed)], [],
    [.styled s!"  [Enter] {d.kind.verb}  [Esc] Cancel" (Style.keep.withFg .darkGray)]]

/-- The device counts columns up to this number, and then from 0 again. -/
def columnLimit : Nat := 65536

/-- The columns in front of the field's cursor, prompt not included. -/
def typedWidth (d : Dialog) : Nat := Text.width (d.field.text.take d.field.cursor)

/-- The device's column for the field's cursor, when lines start at column `x`. -/
def cursorColumn (d : Dialog) (x : Nat) : Nat :=
  (x + d.prompt.width + d.typedWidth % columnLimit) % columnLimit

/-- Draw the dialog in the middle of the canvas. The device's cursor goes to
the field's cursor if that is left of the dialog's edge. -/
def draw (d : Dialog) (c : Canvas) : Canvas :=
  let area := c.area.centered 50 8
  let c := (c.clear area).frame area .plain .black .keep
    [(.topLeft, .raw s!" {d.kind.title} ")]
  let inner := area.inner
  let c := c.paragraph inner d.lines
  let x := d.cursorColumn inner.x
  if x < inner.right then c.showCursor x (inner.y + 1) else c

end Dialog

end DasherTerminal.View
