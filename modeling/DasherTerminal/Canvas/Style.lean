/-!
# Colours and styles

A style says what is to change in the look of a position; what it leaves open
stays as it is.
-/

namespace DasherTerminal

/-- The colours that are drawn with. `reset` is the device's own colour. -/
inductive Color where
  | reset
  | black
  | green
  | yellow
  | cyan
  | gray
  | darkGray
  | lightRed
  | lightGreen
  | lightCyan
  | white
  deriving DecidableEq, Repr

/-- The colour that the characters of the emulated tube glow in. -/
def phosphor : Color := .green

structure Modifiers where
  bold : Bool
  dim : Bool
  underlined : Bool
  deriving DecidableEq, Repr

namespace Modifiers

def none : Modifiers := ⟨false, false, false⟩

def union (a b : Modifiers) : Modifiers :=
  ⟨a.bold || b.bold, a.dim || b.dim, a.underlined || b.underlined⟩

@[simp] theorem union_none (a : Modifiers) : a.union none = a := by
  cases a
  simp [union, none]

end Modifiers

/-- A change of look. -/
structure Style where
  fg : Option Color
  bg : Option Color
  add : Modifiers
  deriving DecidableEq, Repr

namespace Style

def keep : Style := ⟨none, none, .none⟩

instance : Inhabited Style := ⟨keep⟩

def colors (fg bg : Color) : Style := ⟨some fg, some bg, .none⟩

def withFg (s : Style) (fg : Color) : Style := { s with fg := some fg }

def withBg (s : Style) (bg : Color) : Style := { s with bg := some bg }

def bold (s : Style) : Style := { s with add := { s.add with bold := true } }

def dim (s : Style) : Style := { s with add := { s.add with dim := true } }

def underlined (s : Style) : Style := { s with add := { s.add with underlined := true } }

end Style

end DasherTerminal
