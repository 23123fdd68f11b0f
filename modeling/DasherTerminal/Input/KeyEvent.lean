import DasherTerminal.Keyboard.Key

/-!
# Keys of the user's keyboard

What the user's keyboard reports, and which key of the DASHER keyboard it
stands for.
-/

namespace DasherTerminal.Input

inductive KeyCode where
  | char (c : Char)
  | function (number : Nat)
  | enter
  | backspace
  | left
  | right
  | up
  | down
  | home
  | end
  | pageUp
  | pageDown
  | tab
  | delete
  | escape
  /-- A key that means nothing here. -/
  | other
  deriving DecidableEq, Repr

structure KeyEvent where
  code : KeyCode
  shift : Bool
  ctrl : Bool
  alt : Bool
  deriving DecidableEq, Repr

namespace KeyEvent

def ofChar (c : Char) : KeyEvent := ⟨.char c, false, false, false⟩

/-- Whether the event is the prefix key, Ctrl+]. Keyboards also report it as
Ctrl+5 or as the character it produces. -/
def isLead (k : KeyEvent) : Bool :=
  match k.code with
  | .char c => c == '\x1d' || (k.ctrl && (c == ']' || c == '5'))
  | _ => false

def isAsciiLetter (c : Char) : Bool := ('a' ≤ c && c ≤ 'z') || ('A' ≤ c && c ≤ 'Z')

def charKey? (ctrl : Bool) (c : Char) : Option Key :=
  if ctrl && isAsciiLetter c then some (.control c.toUInt8)
  else if ' ' ≤ c && c ≤ '~' then some (.char c.toUInt8)
  else none

/-- The DASHER key a function key stands for. With alt, F1 to F3 are F13 to F15. -/
def functionKey? (k : KeyEvent) (n : Nat) : Option Key :=
  let modifiers : KeyModifiers := ⟨k.shift, k.ctrl⟩
  if k.alt && 1 ≤ n && n ≤ 3 then some (.function (12 + n) modifiers)
  else if 1 ≤ n && n ≤ 12 then some (.function n modifiers)
  else none

def key? (k : KeyEvent) : Option Key :=
  match k.code with
  | .char c => charKey? k.ctrl c
  | .function n => k.functionKey? n
  | .enter => some .newLine
  | .end => some .carriageReturn
  | .backspace => some .rubout
  | .delete => some .eraseToRight
  | .pageDown => some .erasePage
  | .home => some .home
  | .up => some .up
  | .down => some .down
  | .left => some .left
  | .right => some .right
  | .escape => some .escape
  | .tab => some (.control 'i'.toUInt8)
  | .pageUp => none
  | .other => none

end KeyEvent

end DasherTerminal.Input
