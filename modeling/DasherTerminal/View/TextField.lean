import DasherTerminal.Text.Utf8

/-!
# Text fields

A line of text that is edited at a cursor. The cursor is the number of
characters before it; the text is edited at the byte which that number stands
for.
-/

namespace DasherTerminal.View

structure TextField where
  text : List Char
  cursor : Nat
  deriving DecidableEq, Repr

namespace TextField

def empty : TextField := ⟨[], 0⟩

instance : Inhabited TextField := ⟨empty⟩

def ofString (text : String) : TextField := ⟨text.toList, text.toList.length⟩

def toString (f : TextField) : String := String.ofList f.text

/-- The byte that the character after the cursor begins at. -/
def cursorByte (f : TextField) : Nat := Text.byteIndex f.text f.cursor

def previousByte (f : TextField) : Nat := Text.byteIndex f.text (f.cursor - 1)

/-- Insert a character, if one begins at the cursor's byte. -/
def insert? (f : TextField) (c : Char) : Option TextField :=
  (Text.insertAtByte? f.text f.cursorByte c).map fun text => ⟨text, f.cursor + 1⟩

def insert (f : TextField) (c : Char) : TextField := (f.insert? c).getD f

/-- Delete the character before the cursor, if one begins at the byte before. -/
def backspace? (f : TextField) : Option TextField :=
  if f.cursor = 0 then some f
  else (Text.removeAtByte? f.text f.previousByte).map fun text => ⟨text, f.cursor - 1⟩

def backspace (f : TextField) : TextField := f.backspace?.getD f

def left (f : TextField) : TextField := { f with cursor := f.cursor - 1 }

def right (f : TextField) : TextField :=
  if f.cursor < f.text.length then { f with cursor := f.cursor + 1 } else f

end TextField

end DasherTerminal.View
