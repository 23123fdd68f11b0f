import DasherTerminal.Screen.Size
import DasherTerminal.Model

/-!
# The self-test pattern

A byte stream that shows the printable characters, every attribute, every
cursor movement and every mode that the model knows, and ends with a full line
on the last row, so that the screen scrolls once.
-/

namespace DasherTerminal.SelfTest

def ascii (text : String) : List UInt8 := text.toList.map Char.toUInt8

def completeMark : String := "SELF-TEST COMPLETE"

def printables : List UInt8 := (List.range 96).map fun i => UInt8.ofNat (0x20 + i)

/-- The codes that end underscore and dim, with a blank between them and the
next sample. -/
def gap : List UInt8 := [0o25, 0o35, 0x20]

def header (size : ScreenSize) (model : Model) : List UInt8 :=
  [0o14, 0o10, 0o22] ++ ascii s!"DASHER {model.name} SELF-TEST {size.text}" ++
    [0o12] ++ printables ++ [0o12]

def samples (model : Model) : List UInt8 :=
  [0o24] ++ ascii "UNDERSCORE" ++ gap ++ [0o34] ++ ascii "DIM" ++ gap ++
    [0o34, 0o24] ++ ascii "DIM+UNDERSCORE" ++ gap ++ [0o16] ++ ascii "BLINK" ++ [0o17, 0x20] ++
    (if model.hasCommandPrefix then
      [0o36] ++ ascii "D" ++ ascii "REVERSE" ++ [0o36] ++ ascii "E"
    else []) ++ [0o12]

def movements : List UInt8 :=
  ascii "ERASE-EOL:KEEPDROP" ++ [0o31, 0o31, 0o31, 0o31, 0o13, 0o12] ++
    ascii "CURSOR:AB" ++ [0o31, 0o31] ++ ascii "ab" ++ [0o30] ++ ascii "C" ++ [0o32, 0o27] ++
    ascii "D" ++ [0o15] ++ ascii "CURSOR" ++ [0o12]

/-- Unassigned codes, the modes and the model query, none of which shows. -/
def silent (model : Model) : List UInt8 :=
  [0o01, 0o02, 0o05, 0o06, 0o11, 0o21, 0o26, 0o33, 0o37] ++ [0o04, 0o03, 0o23, 0o22] ++
    (if model.answersModelQuery then [0o36] ++ ascii "C" else [])

/-- A mark in the top right corner and a full line at the bottom. -/
def frame (size : ScreenSize) : List UInt8 :=
  [0o20, UInt8.ofNat size.cols, 1] ++ ascii "#" ++ [0o20, 1, UInt8.ofNat size.lines] ++
    List.replicate size.cols '='.toUInt8 ++ ascii completeMark

def stream (size : ScreenSize) (model : Model) : List UInt8 :=
  header size model ++ samples model ++ movements ++ silent model ++ frame size

end DasherTerminal.SelfTest
