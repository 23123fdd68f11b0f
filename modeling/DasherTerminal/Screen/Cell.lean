import DasherTerminal.Screen.Attributes

/-!
# Cells and cursors
-/

namespace DasherTerminal

def blankCode : UInt8 := 0x20

structure Cell where
  code : UInt8
  attributes : Attributes
  deriving DecidableEq, Repr

def Cell.blank : Cell := ⟨blankCode, .plain⟩

instance : Inhabited Cell := ⟨.blank⟩

def charOfCode (code : UInt8) : Char := Char.ofNat code.toNat

/-- A position on the screen, counted from zero. -/
structure Cursor where
  row : Nat
  col : Nat
  deriving DecidableEq, Repr

def Cursor.home : Cursor := ⟨0, 0⟩

instance : Inhabited Cursor := ⟨.home⟩

end DasherTerminal
