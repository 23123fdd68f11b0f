/-!
# Scrollback

The lines that scrolled off the top of the screen, oldest first. A line is
never edited once it is in; when there are more lines than the capacity allows,
the oldest goes.
-/

namespace DasherTerminal

def defaultHistoryCapacity : Nat := 2000

/-- Lines that scrolled off, oldest first. -/
structure History where
  capacity : Nat
  lines : Array String
  deriving DecidableEq, Repr

namespace History

def empty (capacity : Nat) : History := ⟨capacity, #[]⟩

instance : Inhabited History := ⟨empty defaultHistoryCapacity⟩

/-- Append a line, and let the oldest go if there are too many. -/
def push (h : History) (line : String) : History :=
  let lines := h.lines.push line
  { h with lines := if lines.size ≤ h.capacity then lines else lines.extract 1 }

@[simp] theorem capacity_push (h : History) (line : String) :
    (h.push line).capacity = h.capacity := rfl

theorem size_push_le {h : History} (fits : h.lines.size ≤ h.capacity) (line : String) :
    (h.push line).lines.size ≤ h.capacity := by
  simp only [push]
  split
  · assumption
  · simp
    omega

end History

end DasherTerminal
