import DasherTerminal.Keyboard.Table
import DasherTerminal.Keyboard.Template

/-!
# What keys send

Every key has a built-in code. A template replaces the codes of the function
keys it names, and gives them legends. Its bindings are taken over one after
another, so that of several for one key the last one counts.
-/

namespace DasherTerminal

structure Encoder where
  /-- What keys send in place of their built-in codes. -/
  codes : KeyTable (List UInt8)
  legends : KeyTable String
  templateName? : Option String
  deriving DecidableEq, Repr

namespace Encoder

def plain : Encoder := ⟨.empty, .empty, none⟩

instance : Inhabited Encoder := ⟨plain⟩

/-- Take over a binding. One without a legend leaves the key the legend it has. -/
def bind (e : Encoder) (b : Binding) : Encoder :=
  { e with
    codes := e.codes.insert b.key.toNat b.modifiers b.bytes
    legends :=
      match b.label with
      | some text => e.legends.insert b.key.toNat b.modifiers text
      | none => e.legends }

/-- Put a template on the keyboard, in place of the one that was there. -/
def apply (e : Encoder) (t : Template) : Encoder :=
  { t.bindings.foldl bind { e with codes := .empty, legends := .empty } with
    templateName? := if t.name.isEmpty then none else some t.name }

def label? (e : Encoder) (number : Nat) (modifiers : KeyModifiers) : Option String :=
  e.legends.get? number modifiers

/-- How far the modifiers move a function key's code down. -/
def modifierOffset : KeyModifiers → UInt8
  | ⟨false, false⟩ => 0
  | ⟨true, false⟩ => 0o20
  | ⟨false, true⟩ => 0o100
  | ⟨true, true⟩ => 0o120

/-- The built-in code of a function key: 036 and a second byte. -/
def functionCode (number : Nat) (modifiers : KeyModifiers) : List UInt8 :=
  let base := if number = lastFunctionKey then 0o160 else 0o160 + UInt8.ofNat number
  [0o36, base - modifierOffset modifiers]

def function? (e : Encoder) (number : Nat) (modifiers : KeyModifiers) : Option (List UInt8) :=
  if number = 0 ∨ lastFunctionKey < number then none
  else some ((e.codes.get? number modifiers).getD (functionCode number modifiers))

def isLetter (code : UInt8) : Bool :=
  (0x41 ≤ code && code ≤ 0x5A) || (0x61 ≤ code && code ≤ 0x7A)

/-- The control code of a letter: its place in the alphabet. -/
def controlCode (letter : UInt8) : UInt8 := letter &&& 0x1F

def encode (e : Encoder) : Key → Option (List UInt8)
  | .char code => if 0x20 ≤ code && code < 0x7F then some [code] else none
  | .control letter => if isLetter letter then some [controlCode letter] else none
  | .newLine => some [0o12]
  | .carriageReturn => some [0o15]
  | .erasePage => some [0o14]
  | .eraseToRight => some [0o13]
  | .home => some [0o10]
  | .up => some [0o27]
  | .right => some [0o30]
  | .left => some [0o31]
  | .down => some [0o32]
  | .escape => some [0o33]
  | .rubout => some [0o177]
  | .function number modifiers => e.function? number modifiers

end Encoder

end DasherTerminal
