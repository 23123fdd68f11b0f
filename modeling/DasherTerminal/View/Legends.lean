import DasherTerminal.Canvas.Paragraph
import DasherTerminal.Keyboard.Encoder

/-!
# Function-key legends

The legends of the template are shown like the paper strip above the keyboard:
a row for every combination of modifiers that has a legend, a slot for every
key, and in each slot the key's number and as much of its legend as fits.
-/

namespace DasherTerminal.View

structure LegendRow where
  title : String
  labels : List (Option String)
  deriving DecidableEq, Repr

/-- The combinations of modifiers from the top, with their names. -/
def legendOrder : List (KeyModifiers × String) :=
  [(⟨true, true⟩, "C-S"), (⟨false, true⟩, "Ctl"), (⟨true, false⟩, "Shf"), (⟨false, false⟩, "")]

def functionNumbers : List Nat := (List.range lastFunctionKey).map (· + 1)

def legendRows (e : Encoder) : List LegendRow :=
  (legendOrder.map fun (m, title) =>
    ⟨title, functionNumbers.map (e.label? · m)⟩).filter fun row => row.labels.any Option.isSome

def legendMargin : Nat := 4

def padRight (n : Nat) (cs : List Char) : List Char := cs ++ List.replicate (n - cs.length) ' '

def padLeft (n : Nat) (cs : List Char) : List Char := List.replicate (n - cs.length) ' ' ++ cs

def keyNumberStyle : Style := .colors .black phosphor

def legendStyle : Style := Style.keep.withFg phosphor

def legendSlot (slot number : Nat) (label : Option String) : List Span :=
  let room := slot - 3
  [⟨padLeft 2 (toString number).toList, keyNumberStyle⟩,
    ⟨' ' :: padRight room ((label.getD "").toList.take room), legendStyle⟩]

def slotWidth (width : Nat) : Nat := (width - legendMargin) / lastFunctionKey

def legendLine (width : Nat) (row : LegendRow) : Line :=
  ⟨padRight legendMargin row.title.toList, legendStyle⟩ ::
    (functionNumbers.zip row.labels).flatMap fun (n, label) => legendSlot (slotWidth width) n label

def legends (rows : List LegendRow) (area : Rect) (c : Canvas) : Canvas :=
  c.paragraph area (rows.map (legendLine area.width))

end DasherTerminal.View
