/-!
# The DASHER keyboard
-/

namespace DasherTerminal

structure KeyModifiers where
  shift : Bool
  ctrl : Bool
  deriving DecidableEq, Repr

inductive Key where
  | char (code : UInt8)
  | control (letter : UInt8)
  | newLine
  | carriageReturn
  | erasePage
  | eraseToRight
  | home
  | up
  | down
  | left
  | right
  | escape
  | rubout
  /-- F1 to F15. -/
  | function (number : Nat) (modifiers : KeyModifiers)
  deriving DecidableEq, Repr

def lastFunctionKey : Nat := 15

end DasherTerminal
